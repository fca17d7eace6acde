import SmartMeter.Library.Runs
import SmartMeter.Udp.WifiTaskCore

/-!
The socket record of `wm_wifi.c` over whole runs: whether it is there when it is accessed, and
whether the descriptor it names is the one socket that is open.
-/

namespace SmartMeter

open Runs

section Post

variable (task : WifiTask) (msg : Msg)

@[simp]
theorem post_board : (task.post msg).board = task.board := by
  unfold WifiTask.post
  split <;> rfl

@[simp]
theorem post_userSock : (task.post msg).userSock = task.userSock := by
  unfold WifiTask.post
  split <;> rfl

@[simp]
theorem post_network : (task.post msg).network = task.network := by
  unfold WifiTask.post
  split <;> rfl

@[simp]
theorem post_retrying : (task.post msg).retrying = task.retrying := by
  unfold WifiTask.post
  split <;> rfl

@[simp]
theorem post_receiving : (task.post msg).receiving = task.receiving := by
  unfold WifiTask.post
  split <;> rfl

theorem post_queue_congr {first second : WifiTask} (same : first.queue = second.queue) :
    (first.post msg).queue = (second.post msg).queue := by
  unfold WifiTask.post
  rw [same]
  split
  · rfl
  · exact same

theorem post_bounded (bounded : task.queue.length ≤ wifiQueueSize) :
    (task.post msg).queue.length ≤ wifiQueueSize := by
  unfold WifiTask.post
  split
  · rw [List.length_append]
    assumption
  · exact bounded

theorem mem_post_queue {other : Msg} (waits : other ∈ (task.post msg).queue) :
    other ∈ task.queue ∨ other = msg := by
  unfold WifiTask.post at waits
  split at waits
  · simpa using waits
  · exact .inl waits

end Post

/-- What the status callback, the key timer and the other tasks can do to the Wi-Fi task: post
one of the messages that are not about the socket. -/
structure Signals (task after : WifiTask) : Prop where
  udpAckLen : after.board.udpAckLen = task.board.udpAckLen
  userSock : after.userSock = task.userSock
  network : after.network = task.network
  retrying : after.retrying = task.retrying
  receiving : after.receiving = task.receiving
  queue : after.queue = task.queue ∨
    ∃ msg, msg ≠ .socketSnd ∧ msg ≠ .socketErr ∧ after.queue = (task.post msg).queue

theorem Signals.posting {task after : WifiTask} (signals : Signals task after)
    (same : after.queue = task.queue) (msg : Msg) (notSnd : msg ≠ .socketSnd)
    (notErr : msg ≠ .socketErr) : Signals task (after.post msg) := by
  refine ⟨?_, ?_, ?_, ?_, ?_, .inr ⟨msg, notSnd, notErr, ?_⟩⟩
  · rw [post_board, signals.udpAckLen]
  · rw [post_userSock, signals.userSock]
  · rw [post_network, signals.network]
  · rw [post_retrying, signals.retrying]
  · rw [post_receiving, signals.receiving]
  · exact post_queue_congr msg same

theorem userWlanStatusChangedEvent_signals (task : WifiTask) (status : UInt8) :
    Signals task (userWlanStatusChangedEvent task status) := by
  have unchanged : Signals task task := ⟨rfl, rfl, rfl, rfl, rfl, .inl rfl⟩
  unfold userWlanStatusChangedEvent
  split
  · exact unchanged.posting rfl .netDown (by decide) (by decide)
  · split
    · exact unchanged.posting rfl .netUp (by decide) (by decide)
    · exact unchanged

theorem keyScanTimerProc_signals (task : WifiTask) : Signals task (keyScanTimerProc task) := by
  have unposted (gpio : Gpio) (key : KeyScan) :
      Signals task { task with board := { task.board with gpio := gpio }, key := key } :=
    ⟨rfl, rfl, rfl, rfl, rfl, .inl rfl⟩
  have posted (gpio : Gpio) (key : KeyScan) := (unposted gpio key).posting rfl
  simp only [keyScanTimerProc]
  split
  · split
    · exact unposted _ _
    · split
      · exact posted _ _ .oneshot (by decide) (by decide)
      · exact unposted _ _
  · split
    · split
      · exact posted _ _ .key (by decide) (by decide)
      · exact unposted _ _
    · exact unposted _ _

theorem others_signals (task : WifiTask) (i2c : I2cController (Eeprom × Rtc)) (gpio : Gpio) :
    Signals task { task with board := { task.board with i2c := i2c, gpio := gpio } } :=
  ⟨rfl, rfl, rfl, rfl, rfl, .inl rfl⟩

def WifiTask.takes (task : WifiTask) : Option Msg :=
  if task.retrying then none else task.queue.head?

theorem wifiTaskProc_cases (task : WifiTask) (outcome : Outcome) :
    task.retrying = true ∧ task.takes = none ∧
        wifiTaskProc task outcome = socketUdp { task with retrying := false } outcome ∨
      task.retrying = false ∧ task.takes = none ∧ wifiTaskProc task outcome = some task ∨
      task.retrying = false ∧ ∃ msg queue, task.queue = msg :: queue ∧ task.takes = some msg ∧
        wifiTaskProc task outcome = { task with queue := queue }.handleMsg outcome msg := by
  cases waiting : task.retrying with
  | true => exact .inl ⟨rfl, by simp [WifiTask.takes, waiting], by simp [wifiTaskProc, waiting]⟩
  | false =>
      right
      cases queued : task.queue with
      | nil =>
          exact .inl ⟨rfl, by simp [WifiTask.takes, waiting, queued],
            by simp [wifiTaskProc, waiting, queued]⟩
      | cons msg queue =>
          exact .inr ⟨rfl, msg, queue, rfl, by simp [WifiTask.takes, waiting, queued],
            by simp [wifiTaskProc, waiting, queued]⟩

/-! The record is there from the first `MSG_NET_UP` on that could allocate it. -/

def TakesNetDown : Option WifiTask → WifiEvent → Prop
  | some task, .wifiTask _ => task.takes = some .netDown
  | _, _ => False

def AllocatesRecord : Option WifiTask → WifiEvent → Prop
  | some task, .wifiTask outcome => task.takes = some .netUp ∧ outcome.allocates = true
  | _, _ => False

def Recorded (state : Option WifiTask) : Prop :=
  ∃ task sock, state = some task ∧ task.userSock = some sock

/-- Before that nobody can post the messages about the socket, and the receive task does not
leave the head of its loop. -/
structure Unrecorded (task : WifiTask) : Prop where
  userSock : task.userSock = none
  retrying : task.retrying = false
  receiving : task.receiving = false
  queue : ∀ msg ∈ task.queue, msg ≠ .socketSnd ∧ msg ≠ .socketErr

section Recorded

variable {task : WifiTask} {sock : UserSock}

theorem closeUdpSock_cases (present : task.userSock = some sock) :
    ∃ after updated, closeUdpSock task = some after ∧ after.userSock = some updated ∧
      after.board = task.board ∧ after.network.sent = task.network.sent ∧ after.queue = task.queue ∧
      (0 ≤ sock.socketNum ∧ after.network.opened = task.network.opened.erase sock.socketNum ∧
          updated = { sock with socketNum := -1, connStatus := 0 } ∨
        sock.socketNum < 0 ∧ after.network.opened = task.network.opened ∧ updated = sock) := by
  simp only [closeUdpSock, present]
  by_cases valid : 0 ≤ sock.socketNum
  · rw [if_pos valid]
    exact ⟨_, _, rfl, rfl, rfl, rfl, rfl, .inl ⟨valid, rfl, rfl⟩⟩
  · rw [if_neg valid]
    exact ⟨_, _, rfl, present, rfl, rfl, rfl, .inr ⟨by omega, rfl, rfl⟩⟩

theorem socket_cases (network : Network) (outcome : Outcome) :
    (∃ slot, 0 ≤ slot ∧ slot ∉ network.opened ∧
        network.socket outcome = (slot, { network with opened := slot :: network.opened })) ∨
      network.socket outcome = (-1, network) := by
  unfold Network.socket
  split
  · cases free : network.freeSlot outcome.busy with
    | none => exact .inr rfl
    | some slot =>
        have unused := List.find?_some free
        obtain ⟨index, _, rfl⟩ := List.mem_map.mp (List.mem_of_find?_eq_some free)
        simp only [decide_eq_true_eq] at unused
        exact .inl ⟨Int.ofNat index, Int.natCast_nonneg index, unused.1, rfl⟩
  · exact .inr rfl

/-- `CreateUdpSock` forgets the descriptor it finds in the record. When `socket` fails it also
leaves `conn_status` as it was. -/
theorem createUdpSock_cases (present : task.userSock = some sock) (outcome : Outcome) :
    ∃ after updated, createUdpSock task outcome = some after ∧ after.userSock = some updated ∧
      after.board = task.board ∧ after.network.sent = task.network.sent ∧
      (after.queue = task.queue ∨ after.queue = (task.post .socketErr).queue) ∧
      ((∃ slot, 0 ≤ slot ∧ slot ∉ task.network.opened ∧
          after.network.opened = slot :: task.network.opened ∧
          updated = { sock with socketNum := slot, connStatus := 1 }) ∨
        after.network.opened = task.network.opened ∧
          (updated = { sock with socketNum := -1, connStatus := 0 } ∨
            updated = { sock with socketNum := -1 })) := by
  simp only [createUdpSock, present]
  rcases socket_cases task.network outcome with ⟨slot, valid, unused, opens⟩ | fails
  · have real : slot ≠ -1 := by omega
    rw [opens]
    by_cases bound : outcome.bind = true
    · rw [if_pos ⟨real, bound⟩]
      exact ⟨_, _, rfl, rfl, rfl, rfl, .inl rfl, .inl ⟨slot, valid, unused, rfl, rfl⟩⟩
    · rw [if_neg (by simp [bound])]
      simp only [closeUdpSock, valid, if_true, Option.map_some]
      refine ⟨_, _, rfl, post_userSock _ _, post_board _ _, ?_, .inr (post_queue_congr _ rfl),
        .inr ⟨?_, .inl rfl⟩⟩
      · simp [Network.closesocket]
      · simp [Network.closesocket]
  · rw [fails, if_neg (by simp)]
    have invalid : ¬(0 : Int) ≤ -1 := by decide
    simp only [closeUdpSock, invalid, if_false, Option.map_some]
    refine ⟨_, _, rfl, post_userSock _ _, post_board _ _, ?_, .inr (post_queue_congr _ rfl),
      .inr ⟨?_, .inr rfl⟩⟩
    · simp
    · simp

theorem createUdpSock_recorded (present : task.userSock = some sock) (outcome : Outcome) :
    Recorded (createUdpSock task outcome) := by
  obtain ⟨after, updated, done, kept, _⟩ := createUdpSock_cases present outcome
  exact ⟨after, updated, done, kept⟩

theorem socketUdp_recorded (present : task.userSock = some sock) (outcome : Outcome) :
    Recorded (socketUdp task outcome) := by
  simp only [socketUdp, present]
  exact createUdpSock_recorded present outcome

theorem socketSnd_recorded (present : task.userSock = some sock) (outcome : Outcome) :
    Recorded (socketSnd task outcome) := by
  simp only [socketSnd, present]
  split
  · split
    · exact ⟨_, _, rfl, present⟩
    · split
      · exact ⟨_, _, rfl, post_userSock _ _⟩
      · exact ⟨_, _, rfl, rfl⟩
  · exact ⟨_, _, rfl, present⟩

theorem handleMsg_recorded (present : task.userSock = some sock) (outcome : Outcome) (msg : Msg) :
    Recorded (task.handleMsg outcome msg) := by
  cases msg with
  | netUp => exact @socketUdp_recorded { task with oneshotflag := 0 } sock present outcome
  | netDown =>
      obtain ⟨after, updated, done, kept, _⟩ := closeUdpSock_cases present
      exact ⟨after, updated, done, kept⟩
  | oneshot => exact ⟨_, _, rfl, present⟩
  | key => exact ⟨_, _, rfl, present⟩
  | socketErr => exact ⟨_, _, rfl, present⟩
  | socketSnd => exact socketSnd_recorded present outcome

theorem wifiTaskProc_recorded (present : task.userSock = some sock) (outcome : Outcome) :
    Recorded (wifiTaskProc task outcome) := by
  rcases wifiTaskProc_cases task outcome with
    ⟨_, _, resumed⟩ | ⟨_, _, blocked⟩ | ⟨_, msg, queue, _, _, taken⟩
  · rw [resumed]
    exact @socketUdp_recorded { task with retrying := false } sock present outcome
  · rw [blocked]
    exact ⟨_, _, rfl, present⟩
  · rw [taken]
    exact @handleMsg_recorded { task with queue := queue } sock present outcome msg

theorem received_recorded (present : task.userSock = some sock) (turn : Turn) :
    Recorded (task.received turn) := by
  simp only [WifiTask.received, present]
  split
  · split
    · exact ⟨_, _, rfl, post_userSock _ _⟩
    · exact ⟨_, _, rfl, post_userSock _ _⟩
  · exact ⟨_, _, rfl, post_userSock _ _⟩

theorem next_recorded (present : task.userSock = some sock) (event : WifiEvent) :
    Recorded (task.next event) := by
  cases event with
  | status status =>
      exact ⟨_, sock, rfl, (userWlanStatusChangedEvent_signals task status).userSock.trans present⟩
  | keyScan => exact ⟨_, sock, rfl, (keyScanTimerProc_signals task).userSock.trans present⟩
  | wifiTask outcome => exact wifiTaskProc_recorded present outcome
  | poll =>
      refine ⟨_, sock, rfl, ?_⟩
      simp only [WifiTask.poll, present]
      split
      · rfl
      · exact present
  | received turn =>
      simp only [WifiTask.next]
      split
      · exact @received_recorded { task with receiving := false } sock present turn
      · exact ⟨_, _, rfl, present⟩
  | others i2c gpio => exact ⟨_, sock, rfl, present⟩

end Recorded

section Unrecorded

variable {task : WifiTask}

theorem Unrecorded.signalled {after : WifiTask} (unrecorded : Unrecorded task)
    (signals : Signals task after) : Unrecorded after := by
  refine ⟨signals.userSock.trans unrecorded.userSock, signals.retrying.trans unrecorded.retrying,
    signals.receiving.trans unrecorded.receiving, ?_⟩
  rcases signals.queue with same | ⟨msg, notSnd, notErr, posted⟩
  · rw [same]
    exact unrecorded.queue
  · intro other waits
    rw [posted] at waits
    rcases mem_post_queue task msg waits with earlier | rfl
    · exact unrecorded.queue other earlier
    · exact ⟨notSnd, notErr⟩

theorem wifiTaskProc_faults (unrecorded : Unrecorded task) (outcome : Outcome)
    (down : task.takes = some .netDown) : wifiTaskProc task outcome = none := by
  rcases wifiTaskProc_cases task outcome with
    ⟨waiting, _⟩ | ⟨_, blocked, _⟩ | ⟨_, msg, queue, _, takes, taken⟩
  · rw [unrecorded.retrying] at waiting
    cases waiting
  · rw [blocked] at down
    cases down
  · obtain rfl : msg = .netDown := Option.some.inj (takes.symm.trans down)
    simp [taken, WifiTask.handleMsg, closeUdpSock, unrecorded.userSock]

theorem wifiTaskProc_allocates (unrecorded : Unrecorded task) {outcome : Outcome}
    (up : task.takes = some .netUp) (allocates : outcome.allocates = true) :
    Recorded (wifiTaskProc task outcome) := by
  rcases wifiTaskProc_cases task outcome with
    ⟨waiting, _⟩ | ⟨_, blocked, _⟩ | ⟨_, msg, queue, _, takes, taken⟩
  · rw [unrecorded.retrying] at waiting
    cases waiting
  · rw [blocked] at up
    cases up
  · obtain rfl : msg = .netUp := Option.some.inj (takes.symm.trans up)
    simp only [taken, WifiTask.handleMsg, socketUdp, unrecorded.userSock, allocates, if_true]
    exact createUdpSock_recorded rfl outcome

theorem wifiTaskProc_unrecorded (unrecorded : Unrecorded task) {outcome : Outcome}
    (notDown : task.takes ≠ some .netDown)
    (notUp : ¬(task.takes = some .netUp ∧ outcome.allocates = true)) :
    ∃ after, wifiTaskProc task outcome = some after ∧ Unrecorded after := by
  rcases wifiTaskProc_cases task outcome with
    ⟨waiting, _⟩ | ⟨_, _, blocked⟩ | ⟨_, msg, queue, queued, takes, taken⟩
  · rw [unrecorded.retrying] at waiting
    cases waiting
  · exact ⟨task, blocked, unrecorded⟩
  · have own := unrecorded.queue msg (by simp [queued])
    have rest (oneshotflag : UInt8) :
        Unrecorded { task with queue := queue, oneshotflag := oneshotflag } := by
      refine ⟨unrecorded.userSock, unrecorded.retrying, unrecorded.receiving, ?_⟩
      intro other waits
      exact unrecorded.queue other (by simp only [queued, List.mem_cons]; exact .inr waits)
    rw [taken]
    cases msg with
    | netUp =>
        have refused : outcome.allocates = false := by
          cases allocates : outcome.allocates with
          | true => exact absurd ⟨takes, allocates⟩ notUp
          | false => rfl
        refine ⟨_, ?_, rest 0⟩
        simp [WifiTask.handleMsg, socketUdp, unrecorded.userSock, refused]
    | netDown => exact absurd takes notDown
    | oneshot => exact ⟨_, rfl, rest 1⟩
    | key => exact ⟨_, rfl, rest task.oneshotflag⟩
    | socketErr => exact absurd rfl own.2
    | socketSnd => exact absurd rfl own.1

theorem next_unrecorded (unrecorded : Unrecorded task) {event : WifiEvent}
    (notDown : ¬TakesNetDown (some task) event) (notUp : ¬AllocatesRecord (some task) event) :
    ∃ after, task.next event = some after ∧ Unrecorded after := by
  cases event with
  | status status =>
      exact ⟨_, rfl, unrecorded.signalled (userWlanStatusChangedEvent_signals task status)⟩
  | keyScan => exact ⟨_, rfl, unrecorded.signalled (keyScanTimerProc_signals task)⟩
  | wifiTask outcome => exact wifiTaskProc_unrecorded unrecorded notDown notUp
  | poll =>
      refine ⟨task, ?_, unrecorded⟩
      simp [WifiTask.next, WifiTask.poll, unrecorded.userSock]
  | received turn =>
      refine ⟨task, ?_, unrecorded⟩
      simp [WifiTask.next, unrecorded.receiving]
  | others i2c gpio => exact ⟨_, rfl, unrecorded.signalled (others_signals task i2c gpio)⟩

end Unrecorded

/-- No access to `user_sock_u` in a run ever meets NULL, exactly when the Wi-Fi task handles no
`MSG_NET_DOWN` before a `MSG_NET_UP` that got its three allocations. -/
theorem run_neverNull_iff (board : Board) (events : List WifiEvent) :
    (∀ before after, events = before ++ after →
      before.foldl wifiStep (some (.boot board)) ≠ none) ↔
      NoneBefore wifiStep TakesNetDown AllocatesRecord (some (.boot board)) events := by
  apply @reached_iff_noneBefore _ _ wifiStep
    (fun state => ∃ task, state = some task ∧ Unrecorded task) Recorded (fun state => state ≠ none)
  · rintro _ ⟨task, rfl, _⟩ null
    cases null
  · rintro _ ⟨task, sock, rfl, _⟩ null
    cases null
  · rintro _ event ⟨task, sock, rfl, present⟩
    exact next_recorded present event
  · rintro _ event ⟨task, rfl, unrecorded⟩ allocates
    cases event with
    | wifiTask outcome => exact wifiTaskProc_allocates unrecorded allocates.1 allocates.2
    | status | keyScan | poll | received | others => exact absurd allocates id
  · rintro _ event ⟨task, rfl, unrecorded⟩ notDown notUp
    exact next_unrecorded unrecorded notDown notUp
  · rintro _ event ⟨task, rfl, unrecorded⟩ down _ present
    cases event with
    | wifiTask outcome => exact present (wifiTaskProc_faults unrecorded outcome down)
    | status | keyScan | poll | received | others => exact down
  · exact ⟨_, rfl, rfl, rfl, rfl, by intro msg waits; cases waits⟩

def granted : Outcome where
  recordMem := true
  rxMem := true
  txMem := true
  netconn := true
  busy := []
  bind := true
  sendto := some 54
  ethifStatus := true

theorem disconnectFirst_null :
    ¬∀ before after, [.status netifWifiDisconnected, .wifiTask granted] = before ++ after →
      before.foldl wifiStep (some (.boot .blank)) ≠ none := by
  intro every
  exact every [.status netifWifiDisconnected, .wifiTask granted] [] rfl rfl

end SmartMeter
