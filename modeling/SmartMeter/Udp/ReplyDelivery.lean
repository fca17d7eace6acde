import SmartMeter.Library.Outbox
import SmartMeter.Udp.ReplyOwnership
import SmartMeter.Udp.SocketRecord

/-!
From the datagram to the network: `sock_tx`, `tx_len` and the remote address are one slot for
all replies, and `MSG_SOCKET_SND` is the request to serve it. The acknowledgement of a datagram
is what `Data_Handle` leaves in `UDPAck` for the receive task to copy.
-/

namespace SmartMeter

open Runs Outbox

abbrev Delivery := Reply UInt8 (UInt32 × UInt32)

def Sent.part (sent : Sent) : (UInt32 × UInt32) × List UInt8 :=
  ((sent.ip, sent.port), sent.bytes)

def WifiTask.arrival (task : WifiTask) : WifiEvent → Option Delivery
  | .received ⟨memory, heap, .datagram bytes ip port⟩ =>
      match task.userSock with
      | some sock =>
          if task.receiving = true ∧ bytes.val ≠ [] then
            let call := Turn.call ⟨memory, heap, .datagram bytes ip port⟩ sock
            some ⟨(task.board.handle call).meter.ack, (ip, port), []⟩
          else none
      | none => none
  | _ => none

/-- What `sendto` takes over is read from the slot: it belongs to the latest datagram. -/
def WifiTask.deliver (task after : WifiTask) (event : WifiEvent) (deliveries : List Delivery) :
    List Delivery :=
  match task.arrival event with
  | some delivery => delivery :: deliveries
  | none => credit ((after.network.sent.drop task.network.sent.length).map Sent.part) deliveries

def ledgerStep (ledger : Option WifiTask × List Delivery) (event : WifiEvent) :
    Option WifiTask × List Delivery :=
  match ledger.1, wifiStep ledger.1 event with
  | some task, some after => (some after, task.deliver after event ledger.2)
  | _, after => (after, ledger.2)

/-- The datagrams of a run, latest first, each with what went out for it. -/
def deliveries (board : Board) (events : List WifiEvent) : List Delivery :=
  (events.foldl ledgerStep (some (.boot board), [])).2

def Drained : Option WifiTask → Prop
  | some task => .socketSnd ∉ task.queue
  | none => False

instance (state : Option WifiTask) : Decidable (Drained state) :=
  match state with
  | some task => inferInstanceAs (Decidable (.socketSnd ∉ task.queue))
  | none => inferInstanceAs (Decidable False)

/-- A failed `sendto` needs another message behind it; the bytes taken by one that succeeds,
always those from the front of `sock_tx`, have to be the next ones. -/
def SendsNext (task : WifiTask) (sock : UserSock) : Option UInt32 → Prop
  | none => .socketSnd ∈ task.queue.tail
  | some ret => ∀ index < ret.toNat, sock.sockTx index =
      sock.sockTx (task.board.udpAckLen.toNat - sock.txLen.toNat + index)

def DeliversReply : Option WifiTask → WifiEvent → Prop
  | some task, .wifiTask outcome => task.takes = some .socketSnd → ∀ sock,
      task.userSock = some sock → 0 < sock.txLen →
        SendsNext task sock (task.network.sendto sock.socketNum sock.txLen outcome)
  | some task, .received turn => task.receiving = true → turn.received.bytes ≠ [] → ∀ sock,
      task.userSock = some sock → sock.txLen = 0 ∧
        ((task.board.handle (turn.call sock)).udpAckLen ≠ 0 →
          task.queue.length < wifiQueueSize ∨ .socketSnd ∈ task.queue)
  | _, _ => True

structure ReplySlot where
  sockTx : Nat → UInt8
  dest : UInt32 × UInt32
  txLen : UInt32

def UserSock.slot (sock : UserSock) : ReplySlot :=
  ⟨sock.sockTx, (sock.remoteIp, sock.remotePort), sock.txLen⟩

def WifiTask.slot (task : WifiTask) : ReplySlot :=
  (task.userSock.getD .allocated).slot

def WifiTask.box (task : WifiTask) (deliveries : List Delivery) : Box UInt8 (UInt32 × UInt32) :=
  ⟨deliveries, task.slot.txLen.toNat, decide (.socketSnd ∈ task.queue)⟩

/-- `UDPAckLen` keeps the length of the latest acknowledgement until the next one is built. -/
structure SlotHolds (task : WifiTask) (delivery : Delivery) : Prop where
  content : delivery.content = Buffer.toList task.slot.sockTx task.board.udpAckLen.toNat
  dest : delivery.dest = task.slot.dest
  bound : task.slot.txLen.toNat ≤ task.board.udpAckLen.toNat

structure Ledgered (task : WifiTask) (deliveries : List Delivery) : Prop where
  bounded : task.queue.length ≤ wifiQueueSize
  latest : ∀ delivery, deliveries.head? = some delivery → SlotHolds task delivery
  empty : deliveries = [] → task.slot.txLen = 0

/-- One step of the machine is one action on the slot. -/
def Simulates (task after : WifiTask) (event : WifiEvent) (deliveries : List Delivery) : Prop :=
  Ledgered after (task.deliver after event deliveries) ∧
    ∃ action, (task.box deliveries).Possible action ∧
      after.box (task.deliver after event deliveries) = (task.box deliveries).step action ∧
      ((task.box deliveries).Allowed action ↔ DeliversReply (some task) event)

/-- A step that is not about the replies. -/
structure KeepsReply (task after : WifiTask) : Prop where
  sent : after.network.sent = task.network.sent
  slot : after.slot = task.slot
  udpAckLen : after.board.udpAckLen = task.board.udpAckLen
  queue : .socketSnd ∈ after.queue ↔ .socketSnd ∈ task.queue
  bounded : task.queue.length ≤ wifiQueueSize → after.queue.length ≤ wifiQueueSize

theorem slot_of_present {task : WifiTask} {sock : UserSock} (present : task.userSock = some sock) :
    task.slot = sock.slot := by
  rw [WifiTask.slot, present, Option.getD_some]

theorem credit_nil (deliveries : List Delivery) : credit [] deliveries = deliveries := by
  cases deliveries with
  | nil => rfl
  | cons latest earlier => simp [credit]

section KeepsReply

variable {task middle after : WifiTask}

theorem KeepsReply.refl : KeepsReply task task :=
  ⟨rfl, rfl, rfl, Iff.rfl, id⟩

theorem KeepsReply.trans (first : KeepsReply task middle) (second : KeepsReply middle after) : KeepsReply task after :=
  ⟨second.sent.trans first.sent, second.slot.trans first.slot,
    second.udpAckLen.trans first.udpAckLen, second.queue.trans first.queue,
    fun bounded => second.bounded (first.bounded bounded)⟩

theorem mem_post_queue_iff (task : WifiTask) {msg other : Msg} (apart : other ≠ msg) :
    other ∈ (task.post msg).queue ↔ other ∈ task.queue := by
  unfold WifiTask.post
  split
  · simp [apart]
  · rfl

theorem KeepsReply.of_signals (signals : Signals task after) : KeepsReply task after := by
  refine ⟨congrArg Network.sent signals.network, ?_, signals.udpAckLen, ?_, ?_⟩
  · simp only [WifiTask.slot, signals.userSock]
  · rcases signals.queue with same | ⟨msg, notSnd, _, posted⟩
    · rw [same]
    · rw [posted]
      exact mem_post_queue_iff task (Ne.symm notSnd)
  · rcases signals.queue with same | ⟨msg, _, _, posted⟩
    · rw [same]
      exact id
    · rw [posted]
      exact post_bounded task msg

theorem closeUdpSock_keepsReply (done : closeUdpSock task = some after) : KeepsReply task after := by
  cases present : task.userSock with
  | none => simp [closeUdpSock, present] at done
  | some sock =>
      obtain ⟨result, updated, closes, record, board, sent, queue, fate⟩ := closeUdpSock_cases present
      obtain rfl : result = after := Option.some.inj (closes.symm.trans done)
      refine ⟨sent, ?_, congrArg Board.udpAckLen board, by rw [queue], by rw [queue]; exact id⟩
      rcases fate with ⟨_, _, rfl⟩ | ⟨_, _, rfl⟩
      · simp only [WifiTask.slot, record, present, Option.getD_some, UserSock.slot]
      · simp only [WifiTask.slot, record, present]

theorem createUdpSock_keepsReply {outcome : Outcome} (done : createUdpSock task outcome = some after) :
    KeepsReply task after := by
  cases present : task.userSock with
  | none => simp [createUdpSock, present] at done
  | some sock =>
      obtain ⟨result, updated, creates, record, board, sent, queue, fate⟩ :=
        createUdpSock_cases present outcome
      obtain rfl : result = after := Option.some.inj (creates.symm.trans done)
      refine ⟨sent, ?_, congrArg Board.udpAckLen board, ?_, ?_⟩
      · rcases fate with ⟨slot, _, _, _, rfl⟩ | ⟨_, rfl | rfl⟩ <;>
          simp only [WifiTask.slot, record, present, Option.getD_some, UserSock.slot]
      · rcases queue with same | posted
        · rw [same]
        · rw [posted]
          exact mem_post_queue_iff task (by decide)
      · rcases queue with same | posted
        · rw [same]
          exact id
        · rw [posted]
          exact post_bounded task .socketErr

theorem socketUdp_keepsReply {outcome : Outcome} (done : socketUdp task outcome = some after) :
    KeepsReply task after := by
  cases present : task.userSock with
  | some sock =>
      simp only [socketUdp, present] at done
      exact createUdpSock_keepsReply done
  | none =>
      simp only [socketUdp, present] at done
      split at done
      · have allocated : KeepsReply task { task with userSock := some .allocated } := by
          refine ⟨rfl, ?_, rfl, Iff.rfl, id⟩
          simp only [WifiTask.slot, present, Option.getD_some, Option.getD_none]
        exact allocated.trans (createUdpSock_keepsReply done)
      · obtain rfl := Option.some.inj done
        exact KeepsReply.refl

theorem handleMsg_keepsReply {outcome : Outcome} {msg : Msg} (apart : msg ≠ .socketSnd)
    (done : task.handleMsg outcome msg = some after) : KeepsReply task after := by
  have flagged (oneshotflag : UInt8) (retrying : Bool) :
      KeepsReply task { task with oneshotflag := oneshotflag, retrying := retrying } :=
    ⟨rfl, rfl, rfl, Iff.rfl, id⟩
  cases msg with
  | netUp => exact (flagged 0 task.retrying).trans (socketUdp_keepsReply done)
  | netDown => exact closeUdpSock_keepsReply done
  | socketSnd => exact absurd rfl apart
  | oneshot =>
      obtain rfl := Option.some.inj done
      exact flagged 1 task.retrying
  | socketErr =>
      obtain rfl := Option.some.inj done
      exact flagged task.oneshotflag outcome.ethifStatus
  | key =>
      obtain rfl := Option.some.inj done
      exact KeepsReply.refl

theorem poll_keepsReply (task : WifiTask) : KeepsReply task task.poll := by
  unfold WifiTask.poll
  split
  · exact KeepsReply.refl
  · split
    · exact ⟨rfl, rfl, rfl, Iff.rfl, id⟩
    · exact KeepsReply.refl

end KeepsReply

section Simulation

variable {task after : WifiTask} {deliveries : List Delivery} {sock : UserSock}

theorem SlotHolds.congr {delivery : Delivery} (holds : SlotHolds task delivery)
    (slot : after.slot = task.slot) (udpAckLen : after.board.udpAckLen = task.board.udpAckLen) :
    SlotHolds after delivery := by
  refine ⟨?_, ?_, ?_⟩
  · rw [slot, udpAckLen]
    exact holds.content
  · rw [slot]
    exact holds.dest
  · rw [slot, udpAckLen]
    exact holds.bound

theorem arrival_eq_none {turn : Turn}
    (nothing : ¬(task.receiving = true ∧ turn.received.bytes ≠ [])) :
    task.arrival (.received turn) = none := by
  obtain ⟨memory, heap, received⟩ := turn
  cases received with
  | error => rfl
  | datagram bytes ip port =>
      have absent : ¬(task.receiving = true ∧ bytes.val ≠ []) := nothing
      cases present : task.userSock with
      | none => simp only [WifiTask.arrival, present]
      | some sock => simp only [WifiTask.arrival, present, if_neg absent]

theorem deliver_of_silent {event : WifiEvent} (none : task.arrival event = none)
    (sent : after.network.sent = task.network.sent) :
    task.deliver after event deliveries = deliveries := by
  simp only [WifiTask.deliver, none, sent, List.drop_length, List.map_nil]
  exact credit_nil deliveries

theorem KeepsReply.simulates {event : WifiEvent} (keeps : KeepsReply task after)
    (ledgered : Ledgered task deliveries) (none : task.arrival event = none)
    (fine : DeliversReply (some task) event) : Simulates task after event deliveries := by
  unfold Simulates
  rw [deliver_of_silent none keeps.sent]
  refine ⟨⟨keeps.bounded ledgered.bounded, ?_, ?_⟩, .idle, trivial, ?_, iff_of_true trivial fine⟩
  · intro delivery latest
    exact (ledgered.latest delivery latest).congr keeps.slot keeps.udpAckLen
  · rw [keeps.slot]
    exact ledgered.empty
  · simp only [WifiTask.box, Box.step, keeps.slot, keeps.queue]

/-- Whoever takes a message makes room for one. -/
theorem Ledgered.room (ledgered : Ledgered task deliveries) {msg : Msg} {queue : List Msg}
    (queued : task.queue = msg :: queue) : queue.length < wifiQueueSize := by
  have bounded := ledgered.bounded
  rwa [queued, List.length_cons] at bounded

theorem sendto_le {network : Network} {socketNum : Int} {txLen ret : UInt32} {outcome : Outcome}
    (taken : network.sendto socketNum txLen outcome = some ret) : ret ≤ txLen := by
  unfold Network.sendto at taken
  split at taken
  · obtain ⟨length, _, rfl⟩ := Option.map_eq_some_iff.mp taken
    split
    · assumption
    · exact UInt32.le_refl txLen
  · cases taken

theorem skip_simulates {outcome : Outcome} {queue : List Msg} (ledgered : Ledgered task deliveries)
    (queued : task.queue = .socketSnd :: queue) (sent : after.network.sent = task.network.sent)
    (slot : after.slot = task.slot) (udpAckLen : after.board.udpAckLen = task.board.udpAckLen)
    (remains : after.queue = queue)
    (fine : (0 < task.slot.txLen.toNat → .socketSnd ∈ queue) ↔
      DeliversReply (some task) (.wifiTask outcome)) :
    Simulates task after (.wifiTask outcome) deliveries := by
  have shorter : after.queue.length ≤ wifiQueueSize := by
    rw [remains]
    exact Nat.le_of_lt (ledgered.room queued)
  have same : task.deliver after (.wifiTask outcome) deliveries = deliveries :=
    deliver_of_silent rfl sent
  unfold Simulates
  rw [same]
  refine ⟨⟨shorter, ?_, ?_⟩, .skip (decide (.socketSnd ∈ queue)), ?_, ?_, ?_⟩
  · intro delivery latest
    exact (ledgered.latest delivery latest).congr slot udpAckLen
  · rw [slot]
    exact ledgered.empty
  · simp [Box.Possible, WifiTask.box, queued]
  · simp only [WifiTask.box, Box.step, slot, remains]
  · rw [← fine]
    simp only [Box.Allowed, WifiTask.box, decide_eq_true_eq]

theorem repeats_iff (buffer : Nat → UInt8) {count remaining total : Nat} (fits : count ≤ remaining)
    (bound : remaining ≤ total) :
    (Buffer.toList buffer total).take count =
        ((Buffer.toList buffer total).drop (total - remaining)).take count ↔
      ∀ index < count, buffer index = buffer (total - remaining + index) := by
  rw [Buffer.drop_toList buffer (Nat.sub_le _ _), Buffer.take_toList buffer (by omega),
    Buffer.take_toList _ (by omega)]
  exact Buffer.toList_inj

theorem deliversReply_iff {outcome : Outcome} (takes : task.takes = some .socketSnd)
    (present : task.userSock = some sock) (pending : 0 < sock.txLen) :
    DeliversReply (some task) (.wifiTask outcome) ↔
      SendsNext task sock (task.network.sendto sock.socketNum sock.txLen outcome) := by
  constructor
  · intro delivers
    exact delivers takes sock present pending
  · intro next _ other found _
    obtain rfl : sock = other := Option.some.inj (present.symm.trans found)
    exact next

/-- `sendto` reads the front of the content the slot holds. -/
theorem SlotHolds.front {delivery : Delivery} (holds : SlotHolds task delivery) {count : Nat}
    (fits : count ≤ task.slot.txLen.toNat) :
    delivery.content.take count = Buffer.toList task.slot.sockTx count := by
  rw [holds.content]
  exact Buffer.take_toList _ (Nat.le_trans fits holds.bound)

theorem SlotHolds.next_iff {delivery : Delivery} (holds : SlotHolds task delivery) {count : Nat}
    (fits : count ≤ task.slot.txLen.toNat) :
    delivery.content.take count =
        (delivery.content.drop (delivery.content.length - task.slot.txLen.toNat)).take count ↔
      ∀ index < count, task.slot.sockTx index =
        task.slot.sockTx (task.board.udpAckLen.toNat - task.slot.txLen.toNat + index) := by
  have whole : delivery.content.length = task.board.udpAckLen.toNat := by
    rw [holds.content, Buffer.toList_length]
  rw [whole, holds.content]
  exact repeats_iff _ fits holds.bound

theorem serve_simulates {outcome : Outcome} {queue : List Msg} {ret : UInt32}
    (ledgered : Ledgered task deliveries) (takes : task.takes = some .socketSnd)
    (queued : task.queue = .socketSnd :: queue) (present : task.userSock = some sock)
    (pending : 0 < sock.txLen)
    (taken : task.network.sendto sock.socketNum sock.txLen outcome = some ret)
    (board : after.board = task.board)
    (record : after.userSock = some { sock with txLen := sock.txLen - ret })
    (sent : after.network.sent = task.network.sent ++
      [⟨sock.remoteIp, sock.remotePort, Buffer.toList sock.sockTx ret.toNat⟩])
    (bounded : after.queue.length ≤ wifiQueueSize)
    (again : 0 < sock.txLen - ret → .socketSnd ∈ after.queue) :
    Simulates task after (.wifiTask outcome) deliveries := by
  have fits : ret.toNat ≤ sock.txLen.toNat := UInt32.le_iff_toNat_le.mp (sendto_le taken)
  have left : (sock.txLen - ret).toNat = sock.txLen.toNat - ret.toNat :=
    UInt32.toNat_sub_of_le _ _ (sendto_le taken)
  have positive : 0 < sock.txLen.toNat := UInt32.lt_iff_toNat_lt.mp pending
  have before := slot_of_present present
  have behind : after.slot = { task.slot with txLen := sock.txLen - ret } := by
    simp only [WifiTask.slot, record, present, Option.getD_some, UserSock.slot]
  have txLen : task.slot.txLen = sock.txLen := congrArg ReplySlot.txLen before
  cases deliveries with
  | nil =>
      have none := ledgered.empty rfl
      rw [txLen] at none
      exact absurd (congrArg UInt32.toNat none) (Nat.ne_of_gt positive)
  | cons latest earlier =>
      have holds := ledgered.latest latest rfl
      have within : ret.toNat ≤ task.slot.txLen.toNat := by rw [txLen]; exact fits
      have delivered : task.deliver after (.wifiTask outcome) (latest :: earlier) =
          latest.served ret.toNat :: earlier := by
        simp only [WifiTask.deliver, WifiTask.arrival, sent, List.drop_left, List.map_cons,
          List.map_nil, credit, Reply.served, holds.front within, holds.dest, before]
        rfl
      unfold Simulates
      rw [delivered]
      refine ⟨⟨bounded, ?_, by simp⟩, .serve ret.toNat (decide (.socketSnd ∈ after.queue)),
        ⟨?_, ?_, within⟩, ?_, ?_⟩
      · rintro delivery ⟨⟩
        refine ⟨?_, ?_, ?_⟩
        · rw [behind, board]
          exact holds.content
        · rw [behind]
          exact holds.dest
        · rw [behind, board, left, ← txLen]
          exact Nat.le_trans (Nat.sub_le _ _) holds.bound
      · simp [WifiTask.box, queued]
      · simp only [WifiTask.box, txLen]
        exact positive
      · have held : (task.box (latest :: earlier)).replies = latest :: earlier := rfl
        rw [step_serve held]
        simp only [WifiTask.box, behind, left, txLen]
      · have requests : ret.toNat < task.slot.txLen.toNat → .socketSnd ∈ after.queue := by
          intro more
          apply again
          rw [UInt32.lt_iff_toNat_lt, left, ← txLen]
          exact Nat.sub_pos_of_lt more
        have next := holds.next_iff within
        rw [deliversReply_iff takes present pending, taken]
        simp only [Box.Allowed, WifiTask.box, List.head?_cons, Option.some.injEq, forall_eq',
          decide_eq_true_eq, next, and_iff_left requests]
        rw [before]
        rfl

theorem socketSnd_simulates {outcome : Outcome} {queue : List Msg}
    (ledgered : Ledgered task deliveries) (takes : task.takes = some .socketSnd)
    (queued : task.queue = .socketSnd :: queue)
    (done : socketSnd { task with queue := queue } outcome = some after) :
    Simulates task after (.wifiTask outcome) deliveries := by
  cases present : task.userSock with
  | none => simp [socketSnd, present] at done
  | some sock =>
      have slot := slot_of_present present
      simp only [socketSnd, present] at done
      by_cases pending : 0 < sock.txLen
      · rw [if_pos pending] at done
        cases taken : task.network.sendto sock.socketNum sock.txLen outcome with
        | none =>
            simp only [taken] at done
            obtain rfl := Option.some.inj done
            refine skip_simulates ledgered queued rfl (by simp [WifiTask.slot, present]) rfl rfl ?_
            rw [deliversReply_iff takes present pending, taken, slot]
            simp only [SendsNext, queued, List.tail_cons]
            exact forall_prop_of_true (UInt32.lt_iff_toNat_lt.mp pending)
        | some ret =>
            simp only [taken] at done
            have shorter := ledgered.room queued
            obtain rfl := Option.some.inj done
            by_cases more : 0 < sock.txLen - ret
            · rw [if_pos more]
              refine serve_simulates ledgered takes queued present pending taken (post_board _ _)
                (post_userSock _ _) (by simp) (post_bounded _ _ (Nat.le_of_lt shorter)) ?_
              intro _
              simp [WifiTask.post, shorter]
            · rw [if_neg more]
              exact serve_simulates ledgered takes queued present pending taken rfl rfl rfl
                (Nat.le_of_lt shorter) (absurd · more)
      · rw [if_neg pending] at done
        obtain rfl := Option.some.inj done
        refine skip_simulates ledgered queued rfl (by simp [WifiTask.slot, present]) rfl rfl ?_
        refine iff_of_true ?_ ?_
        · intro positive
          rw [slot] at positive
          refine absurd ?_ pending
          rw [UInt32.lt_iff_toNat_lt]
          exact positive
        · intro _ other found positive
          obtain rfl : sock = other := Option.some.inj (present.symm.trans found)
          exact absurd positive pending

theorem wifiTaskProc_simulates {outcome : Outcome} (ledgered : Ledgered task deliveries)
    (done : wifiTaskProc task outcome = some after) :
    Simulates task after (.wifiTask outcome) deliveries := by
  have fine (other : task.takes ≠ some .socketSnd) : DeliversReply (some task) (.wifiTask outcome) :=
    fun takes => absurd takes other
  rcases wifiTaskProc_cases task outcome with
    ⟨_, takes, resumed⟩ | ⟨_, takes, blocked⟩ | ⟨_, msg, queue, queued, takes, taken⟩
  · have resumes : KeepsReply task { task with retrying := false } := ⟨rfl, rfl, rfl, Iff.rfl, id⟩
    rw [resumed] at done
    exact (resumes.trans (socketUdp_keepsReply done)).simulates ledgered rfl (fine (by simp [takes]))
  · obtain rfl := Option.some.inj (blocked.symm.trans done)
    exact KeepsReply.refl.simulates ledgered rfl (fine (by simp [takes]))
  · rw [taken] at done
    by_cases snd : msg = .socketSnd
    · subst snd
      exact socketSnd_simulates ledgered takes queued done
    · have popped : KeepsReply task { task with queue := queue } := by
        refine ⟨rfl, rfl, rfl, ?_, ?_⟩
        · simp [queued, Ne.symm snd]
        · intro bounded
          rw [queued, List.length_cons] at bounded
          exact Nat.le_of_succ_le bounded
      exact (popped.trans (handleMsg_keepsReply snd done)).simulates ledgered rfl
        (fine (by simp [takes, snd]))

theorem handle_udpAckLen (board : Board) {turn : Turn} (none : turn.received.bytes = [])
    (sock : UserSock) : (board.handle (turn.call sock)).udpAckLen = board.udpAckLen := by
  have silent := answered_of_no_bytes turn sock none
  have same : (board.handle (turn.call sock)).meter = board.meter := by
    rw [handle_meter, handled_of_not_answered silent]
  have lengths := congrArg (fun meter => meter.ack.length) same
  simp only [Board.meter, Buffer.toList_length] at lengths
  exact UInt8.toNat_inj.mp lengths

theorem received_keepsReply {turn : Turn} (none : turn.received.bytes = [])
    (done : task.received turn = some after) : KeepsReply task after := by
  cases present : task.userSock with
  | none => simp [WifiTask.received, present] at done
  | some sock =>
      have unchanged := handle_udpAckLen task.board none sock
      have closed {rx : Nat → UInt8} : KeepsReply task ({ task with
          board := task.board.handle (turn.call sock)
          network := task.network.closesocket sock.socketNum
          userSock := some { sock with sockRx := rx, socketNum := -1, connStatus := 0 } }.post
            .socketErr) := by
        refine ⟨?_, ?_, ?_, mem_post_queue_iff _ (by decide), fun bounded => post_bounded _ _ bounded⟩
        · simp [Network.closesocket]
        · simp [WifiTask.slot, UserSock.slot, present]
        · simpa using unchanged
      obtain ⟨memory, heap, received⟩ := turn
      cases received with
      | error =>
          simp only [WifiTask.received, present] at done
          obtain rfl := Option.some.inj done
          exact closed
      | datagram bytes ip port =>
          have empty : bytes.val = [] := none
          simp only [WifiTask.received, present, empty, List.length_nil, Nat.lt_irrefl,
            if_false] at done
          obtain rfl := Option.some.inj done
          exact closed

theorem mem_post_queue_self (task : WifiTask) (msg : Msg) :
    msg ∈ (task.post msg).queue ↔ task.queue.length < wifiQueueSize ∨ msg ∈ task.queue := by
  unfold WifiTask.post
  split
  · rename_i room
    simp [room]
  · rename_i full
    simp [full]

theorem received_datagram {turn : Turn} {bytes : Datagram} {ip port : UInt32}
    (received : turn.received = .datagram bytes ip port) (filled : bytes.val ≠ [])
    (present : task.userSock = some sock) (done : task.received turn = some after) :
    after.board.udpAckLen = (task.board.handle (turn.call sock)).udpAckLen ∧
      Buffer.toList after.slot.sockTx after.board.udpAckLen.toNat =
        (task.board.handle (turn.call sock)).meter.ack ∧
      after.slot.dest = (ip, port) ∧
      after.slot.txLen = (task.board.handle (turn.call sock)).udpAckLen.toUInt32 ∧
      after.queue = (task.post .socketSnd).queue := by
  have positive : 0 < bytes.val.length := List.length_pos_iff.mpr filled
  simp only [WifiTask.received, present, received, positive, if_true] at done
  obtain rfl := Option.some.inj done
  refine ⟨?_, ?_, ?_, ?_, post_queue_congr _ rfl⟩
  · simp
  · have copied (source target : Nat → UInt8) (count : Nat) :
        Buffer.toList (Buffer.copy target 0 source count) count = Buffer.toList source count := by
      simpa using Buffer.toList_copy target source 0 count
    simp [WifiTask.slot, UserSock.slot, Board.meter, copied]
  · simp [WifiTask.slot, UserSock.slot]
  · simp [WifiTask.slot, UserSock.slot]

theorem datagram_simulates {turn : Turn} {bytes : Datagram} {ip port : UInt32}
    (ledgered : Ledgered task deliveries) (receiving : task.receiving = true)
    (received : turn.received = .datagram bytes ip port) (filled : bytes.val ≠ [])
    (done : { task with receiving := false }.received turn = some after) :
    Simulates task after (.received turn) deliveries := by
  cases present : task.userSock with
  | none => simp [WifiTask.received, present] at done
  | some sock =>
      obtain ⟨udpAckLen, content, dest, txLen, queue⟩ :=
        @received_datagram { task with receiving := false } after sock turn bytes ip port received
          filled present done
      have posted : after.queue = (task.post .socketSnd).queue :=
        queue.trans (post_queue_congr _ rfl)
      have slot := slot_of_present present
      have arrives : task.deliver after (.received turn) deliveries =
          ⟨(task.board.handle (turn.call sock)).meter.ack, (ip, port), []⟩ :: deliveries := by
        obtain ⟨memory, heap, _⟩ := turn
        obtain rfl := received
        simp [WifiTask.deliver, WifiTask.arrival, present, receiving, filled]
      have length : (task.board.handle (turn.call sock)).meter.ack.length =
          (task.board.handle (turn.call sock)).udpAckLen.toNat := by
        simp [Board.meter]
      unfold Simulates
      rw [arrives]
      refine ⟨⟨?_, ?_, by simp⟩, .fill (task.board.handle (turn.call sock)).meter.ack (ip, port)
        (decide (.socketSnd ∈ after.queue)), trivial, ?_, ?_⟩
      · rw [posted]
        exact post_bounded _ _ ledgered.bounded
      · rintro delivery ⟨⟩
        refine ⟨content.symm, dest.symm, ?_⟩
        exact Nat.le_of_eq (by rw [txLen, udpAckLen, UInt8.toNat_toUInt32])
      · simp only [WifiTask.box, Box.step, txLen, UInt8.toNat_toUInt32, length]
      · have bytes : turn.received.bytes ≠ [] := by simpa [received, Received.bytes] using filled
        have answered : (task.board.handle (turn.call sock)).meter.ack ≠ [] ↔
            (task.board.handle (turn.call sock)).udpAckLen ≠ 0 := not_congr (ack_eq_nil_iff _)
        have emptied : sock.txLen.toNat = 0 ↔ sock.txLen = 0 := UInt32.toNat_inj (b := 0)
        simp only [Box.Allowed, WifiTask.box, slot, UserSock.slot, DeliversReply, receiving, bytes,
          present, posted, answered, emptied, mem_post_queue_self, decide_eq_true_eq, ne_eq,
          not_false_eq_true, forall_const, Option.some.injEq, forall_eq']

theorem next_simulates (ledgered : Ledgered task deliveries) {event : WifiEvent}
    (done : task.next event = some after) : Simulates task after event deliveries := by
  cases event with
  | status status =>
      obtain rfl := Option.some.inj done
      exact (KeepsReply.of_signals (userWlanStatusChangedEvent_signals task status)).simulates
        ledgered rfl trivial
  | keyScan =>
      obtain rfl := Option.some.inj done
      exact (KeepsReply.of_signals (keyScanTimerProc_signals task)).simulates ledgered rfl trivial
  | wifiTask outcome => exact wifiTaskProc_simulates ledgered done
  | poll =>
      obtain rfl := Option.some.inj done
      exact (poll_keepsReply task).simulates ledgered rfl trivial
  | received turn =>
      by_cases receiving : task.receiving = true
      · simp only [WifiTask.next, receiving, if_true] at done
        have returns : KeepsReply task { task with receiving := false } := ⟨rfl, rfl, rfl, Iff.rfl, id⟩
        by_cases none : turn.received.bytes = []
        · refine (returns.trans (received_keepsReply none done)).simulates ledgered ?_ ?_
          · exact arrival_eq_none fun arrives => arrives.2 none
          · intro _ filled
            exact absurd none filled
        · cases received : turn.received with
          | error => exact absurd (by simp [received, Received.bytes]) none
          | datagram bytes ip port =>
              refine datagram_simulates ledgered receiving received ?_ done
              simpa [received, Received.bytes] using none
      · simp only [WifiTask.next, receiving] at done
        obtain rfl := Option.some.inj done
        exact KeepsReply.refl.simulates ledgered (arrival_eq_none fun arrives => receiving arrives.1)
          fun waits => absurd waits receiving
  | others i2c gpio =>
      obtain rfl := Option.some.inj done
      exact (KeepsReply.of_signals (others_signals task i2c gpio)).simulates ledgered rfl trivial

end Simulation

theorem ledgerStep_fst (ledger : Option WifiTask × List Delivery) (event : WifiEvent) :
    (ledgerStep ledger event).1 = wifiStep ledger.1 event := by
  unfold ledgerStep
  split
  · rename_i after _ done
    exact done.symm
  · rfl

theorem foldl_ledgerStep_fst (ledger : Option WifiTask × List Delivery) (events : List WifiEvent) :
    events.foldl wifiStep ledger.1 = (events.foldl ledgerStep ledger).1 :=
  List.foldl_hom Prod.fst fun ledger event => (ledgerStep_fst ledger event).symm

theorem ledgerStep_some {task after : WifiTask} {event : WifiEvent} (deliveries : List Delivery)
    (done : task.next event = some after) :
    ledgerStep (some task, deliveries) event = (some after, task.deliver after event deliveries) := by
  simp only [ledgerStep, wifiStep, Option.bind_some, done]

theorem foldl_wifiStep_none (events : List WifiEvent) : events.foldl wifiStep none = none := by
  induction events with
  | nil => rfl
  | cons event rest ih => exact ih

theorem along_present {state : Option WifiTask} {events : List WifiEvent}
    (present : events.foldl wifiStep state ≠ none) :
    Along wifiStep (fun state event => wifiStep state event ≠ none) state events := by
  induction events generalizing state with
  | nil => trivial
  | cons event rest ih =>
      refine ⟨?_, ih present⟩
      intro lost
      rw [List.foldl_cons, lost] at present
      exact present (foldl_wifiStep_none rest)

/-- The ledger of a run in which every reply is still in order, or one in which a reply is
spoiled for good. -/
def LedgerIs (judgement : Box UInt8 (UInt32 × UInt32) → Prop)
    (ledger : Option WifiTask × List Delivery) : Prop :=
  ∃ task, ledger.1 = some task ∧ Ledgered task ledger.2 ∧ judgement (task.box ledger.2)

theorem ledgerStep_is {before after : Box UInt8 (UInt32 × UInt32) → Prop}
    {ledger : Option WifiTask × List Delivery} {event : WifiEvent} (holds : LedgerIs before ledger)
    (possible : wifiStep ledger.1 event ≠ none)
    (leads : ∀ (box : Box UInt8 (UInt32 × UInt32)) action, before box → box.Possible action →
      (box.Allowed action ↔ DeliversReply ledger.1 event) → after (box.step action)) :
    LedgerIs after (ledgerStep ledger event) := by
  obtain ⟨state, deliveries⟩ := ledger
  obtain ⟨task, rfl, ledgered, judged⟩ := holds
  obtain ⟨result, done⟩ := Option.ne_none_iff_exists'.mp possible
  obtain ⟨next, action, fits, same, allowed⟩ := next_simulates ledgered done
  rw [ledgerStep_some deliveries done]
  refine ⟨result, rfl, next, ?_⟩
  rw [same]
  exact leads _ action judged fits allowed

/-- Over a run that ends with no `MSG_SOCKET_SND` left, each acknowledgement has gone out whole,
once and to its own sender, exactly when no datagram meets a reply that is not yet sent, each
reply gets a message into the queue, and what `sendto` takes is always what comes next. -/
theorem run_delivered_iff (board : Board) (events : List WifiEvent)
    (drained : Drained (events.foldl wifiStep (some (.boot board)))) :
    (∀ delivery ∈ deliveries board events, delivery.Complete) ↔
      Along wifiStep DeliversReply (some (.boot board)) events := by
  have present : events.foldl wifiStep (some (.boot board)) ≠ none := by
    intro lost
    rw [lost] at drained
    exact drained
  have start : LedgerIs Outbox.Sound (some (.boot board), []) := by
    refine ⟨.boot board, rfl, ⟨Nat.zero_le _, ?_, fun _ => rfl⟩, ?_, ?_, fun _ => rfl, ?_⟩
    · intro delivery latest
      cases latest
    · intro reply member
      cases member
    · intro reply latest
      cases latest
    · intro positive
      exact absurd positive (Nat.lt_irrefl 0)
  have possible : Along ledgerStep (fun ledger event => wifiStep ledger.1 event ≠ none)
      (some (.boot board), []) events :=
    (along_project ledgerStep_fst _ _ events).mpr (along_present present)
  have projected := along_project ledgerStep_fst DeliversReply (some (.boot board), []) events
  rw [← projected]
  rcases final_good_or_bad
      (fun ledger event holds fits allows => ledgerStep_is holds fits
        fun box action sound possible allowed => sound.step possible (allowed.mpr allows))
      (fun ledger event holds fits forbids => ledgerStep_is holds fits
        fun box action sound possible allowed => sound.lost possible (mt allowed.mp forbids))
      (fun ledger event holds fits => ledgerStep_is holds fits
        fun box action broken possible _ => broken.step possible)
      start events possible with
    ⟨along, task, reached, _, sound⟩ | ⟨strays, task, _, _, broken⟩
  · refine iff_of_true (sound.complete ?_) along
    rw [foldl_ledgerStep_fst (some (.boot board), []), reached] at drained
    exact decide_eq_false drained
  · exact iff_of_false broken.not_complete strays

theorem relayQuery_fits :
    ([0x5A, 0x55, 0x01, 0x82, 0xA5] : List UInt8).length ≤ userSockBufSize := by
  decide

def relayQueryFrom (ip port : UInt32) : WifiEvent :=
  .received ⟨fun _ => 0, fun _ => 0,
    .datagram ⟨[0x5A, 0x55, 0x01, 0x82, 0xA5], relayQuery_fits⟩ ip port⟩

def oneQuery : List WifiEvent :=
  [.status netifIpNetUp, .wifiTask granted, .poll, relayQueryFrom 1 1000, .wifiTask granted]

theorem run_delivered_iff_oneQuery :
    Drained (oneQuery.foldl wifiStep (some (.boot .blank))) ∧
      Along wifiStep DeliversReply (some (.boot .blank)) oneQuery := by
  have drained : Drained (oneQuery.foldl wifiStep (some (.boot .blank))) := by decide +kernel
  exact ⟨drained, (run_delivered_iff .blank oneQuery drained).mp (by decide +kernel)⟩

def backToBack : List WifiEvent :=
  [.status netifIpNetUp, .wifiTask granted, .poll, relayQueryFrom 1 1000, .poll,
    relayQueryFrom 2 1000, .wifiTask granted, .wifiTask granted]

theorem backToBack_not_delivered :
    Drained (backToBack.foldl wifiStep (some (.boot .blank))) ∧
      ¬∀ delivery ∈ deliveries .blank backToBack, delivery.Complete := by
  constructor
  · decide +kernel
  · decide +kernel

end SmartMeter
