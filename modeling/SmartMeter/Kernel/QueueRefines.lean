import SmartMeter.Kernel.QueueCore
import Mathlib.Tactic.Ring

/-! What a queue gives back is what a list of messages would, in every run. -/

namespace SmartMeter

namespace QueueDefinition

variable {queue : QueueDefinition} {list : MessageList}

def slot (queue : QueueDefinition) (place : Nat) : List UInt8 :=
  Buffer.toList (fun index => queue.storage (queue.pcHead + place * queue.uxItemSize + index))
    queue.uxItemSize

/-- The read pointer is at the slot in front of the first message, the write pointer at the one
behind the last. -/
structure RingAt (queue : QueueDefinition) (messages : List (List UInt8)) (read : Nat) : Prop where
  inside : read < queue.uxLength
  reads : queue.pcReadFrom = queue.pcHead + read * queue.uxItemSize
  writes : queue.pcWriteTo =
    queue.pcHead + (read + 1 + messages.length) % queue.uxLength * queue.uxItemSize
  tail : queue.pcTail = queue.pcHead + queue.uxLength * queue.uxItemSize
  contents : messages = SlotRing.contents queue.slot queue.uxLength read messages.length

/-- Items without bytes are only counted. No item is at the bottom of the memory. -/
structure Represents (queue : QueueDefinition) (list : MessageList) : Prop where
  length : queue.uxLength = list.length
  size : queue.uxItemSize = list.size
  waiting : queue.uxMessagesWaiting = list.messages.length
  fits : list.messages.length ≤ list.length
  widths : ∀ message ∈ list.messages, message.length = list.size
  ring : queue.uxItemSize ≠ 0 → ∃ read, queue.RingAt list.messages read
  room : queue.uxItemSize ≤ queue.pcHead

theorem slot_memcpy (queue : QueueDefinition) (place : Nat) (source : Nat → UInt8) :
    (queue.memcpy (queue.pcHead + place * queue.uxItemSize) source).slot =
      Function.update queue.slot place (Buffer.toList source queue.uxItemSize) := by
  funext other
  by_cases same : other = place
  · subst same
    rw [Function.update_self]
    exact Buffer.toList_congr fun index bound => Buffer.copy_inside _ _ bound
  · rw [Function.update_of_ne same]
    refine Buffer.toList_congr fun index bound => Buffer.copy_outside _ _ ?_
    change index < queue.uxItemSize at bound
    change queue.pcHead + other * queue.uxItemSize + index < _ ∨
      _ ≤ queue.pcHead + other * queue.uxItemSize + index
    rcases Nat.lt_or_gt_of_ne same with before | behind
    · have above := Nat.mul_le_mul_right queue.uxItemSize (Nat.succ_le_of_lt before)
      rw [Nat.succ_mul] at above
      exact .inl (by omega)
    · have above := Nat.mul_le_mul_right queue.uxItemSize (Nat.succ_le_of_lt behind)
      rw [Nat.succ_mul] at above
      exact .inr (by omega)

/-- A pointer goes on by one item, from the end to the beginning. -/
theorem advance_pointer (head : Nat) {place length size : Nat} (some_ : size ≠ 0)
    (inside : place < length) :
    (if head + place * size + size ≥ head + length * size then head
      else head + place * size + size) = head + (place + 1) % length * size := by
  have step : head + place * size + size = head + (place + 1) * size := by ring
  rw [step]
  by_cases last : place + 1 = length
  · rw [last, if_pos (Nat.le_refl _), Nat.mod_self, Nat.zero_mul, Nat.add_zero]
  · have more : place + 1 < length := by omega
    have below := Nat.mul_lt_mul_of_pos_right more (Nat.pos_of_ne_zero some_)
    rw [if_neg (by omega), Nat.mod_eq_of_lt more]

theorem retreat_pointer {place length size head : Nat} (some_ : size ≠ 0) (inside : place < length)
    (room : size ≤ head) : ∃ previous < length, (previous + 1) % length = place ∧
      (if head + place * size - size < head then head + length * size - size
        else head + place * size - size) = head + previous * size := by
  cases place with
  | zero =>
      obtain ⟨previous, rfl⟩ := Nat.exists_eq_succ_of_ne_zero (Nat.pos_iff_ne_zero.mp inside)
      refine ⟨previous, Nat.lt_succ_self _, Nat.mod_self _, ?_⟩
      rw [if_pos (by omega), Nat.succ_mul]
      omega
  | succ previous =>
      refine ⟨previous, Nat.lt_of_succ_lt inside, Nat.mod_eq_of_lt inside, ?_⟩
      rw [Nat.succ_mul, if_neg (by omega)]
      omega

theorem RingAt.sendToBack {messages : List (List UInt8)} {read : Nat}
    (ring : queue.RingAt messages read)
    (some_ : queue.uxItemSize ≠ 0) (space : messages.length < queue.uxLength)
    (item : Nat → UInt8) :
    (queue.prvCopyDataToQueue item queueSendToBack).RingAt
      (messages ++ [Buffer.toList item queue.uxItemSize]) read := by
  have place : (read + 1 + messages.length) % queue.uxLength < queue.uxLength :=
    Nat.mod_lt _ (Nat.zero_lt_of_lt space)
  have written := queue.slot_memcpy ((read + 1 + messages.length) % queue.uxLength) item
  rw [← ring.writes] at written
  have contents : messages ++ [Buffer.toList item queue.uxItemSize] = SlotRing.contents
      (queue.memcpy queue.pcWriteTo item).slot queue.uxLength read (messages.length + 1) := by
    rw [written, SlotRing.contents_back space, ← ring.contents]
  have moved := advance_pointer queue.pcHead some_ place
  rw [← ring.writes, ← ring.tail, Nat.mod_add_mod] at moved
  rw [prvCopyDataToQueue, if_neg some_, if_pos rfl]
  refine ⟨ring.inside, ring.reads, ?_, ring.tail, ?_⟩
  · rw [List.length_append]
    exact moved
  · rw [List.length_append]
    exact contents

theorem RingAt.sendToFront {messages : List (List UInt8)} {read : Nat}
    (ring : queue.RingAt messages read) (some_ : queue.uxItemSize ≠ 0)
    (room : queue.uxItemSize ≤ queue.pcHead) (space : messages.length < queue.uxLength)
    (item : Nat → UInt8) {position : Int} (front : position ≠ queueSendToBack) :
    ∃ previous, (queue.prvCopyDataToQueue item position).RingAt
      (Buffer.toList item queue.uxItemSize :: messages) previous := by
  have written := queue.slot_memcpy read item
  obtain ⟨previous, inside, back, moved⟩ := retreat_pointer some_ ring.inside room
  rw [← ring.reads] at written moved
  rw [← ring.tail] at moved
  have contents : Buffer.toList item queue.uxItemSize :: messages = SlotRing.contents
      (queue.memcpy queue.pcReadFrom item).slot queue.uxLength previous (messages.length + 1) := by
    rw [written, SlotRing.contents_front back space ring.inside, ← ring.contents]
  have same : (read + 1 + messages.length) % queue.uxLength =
      (previous + 1 + (messages.length + 1)) % queue.uxLength := by
    rw [← Nat.mod_add_mod (previous + 1), back]
    congr 1
    omega
  have writes := ring.writes
  rw [same] at writes
  rw [prvCopyDataToQueue, if_neg some_, if_neg front]
  exact ⟨previous, inside, moved, writes, ring.tail, contents⟩

/-- The first message is copied out, and the read pointer is at its slot then. -/
theorem RingAt.copyFromQueue {first : List UInt8} {rest : List (List UInt8)} {read : Nat}
    (ring : queue.RingAt (first :: rest) read) (some_ : queue.uxItemSize ≠ 0) :
    queue.prvCopyDataFromQueue.1 = first ∧
      ∃ next, queue.prvCopyDataFromQueue.2.RingAt rest next := by
  have moved := advance_pointer queue.pcHead some_ ring.inside
  rw [← ring.reads, ← ring.tail] at moved
  have inside : (read + 1) % queue.uxLength < queue.uxLength :=
    Nat.mod_lt _ (Nat.zero_lt_of_lt ring.inside)
  have contents := ring.contents
  rw [List.length_cons, SlotRing.contents_step rfl, List.cons.injEq] at contents
  have writes := ring.writes
  rw [List.length_cons, show read + 1 + (rest.length + 1) = read + 1 + 1 + rest.length by omega,
    Nat.add_assoc (read + 1), ← Nat.mod_add_mod, ← Nat.add_assoc] at writes
  refine ⟨?_, _, inside, moved, writes, ring.tail, contents.2⟩
  rw [contents.1, prvCopyDataFromQueue]
  dsimp only
  rw [moved]
  rfl

theorem prvCopyDataToQueue_same (queue : QueueDefinition) (item : Nat → UInt8) (position : Int) :
    let sent := queue.prvCopyDataToQueue item position
    sent.uxLength = queue.uxLength ∧ sent.uxItemSize = queue.uxItemSize ∧
      sent.pcHead = queue.pcHead ∧ sent.uxMessagesWaiting = queue.uxMessagesWaiting + 1 := by
  dsimp only
  rw [prvCopyDataToQueue]
  split
  · exact ⟨rfl, rfl, rfl, rfl⟩
  · split <;> exact ⟨rfl, rfl, rfl, rfl⟩

namespace Represents

theorem copyToQueue (represents : queue.Represents list) (item : Nat → UInt8) (position : Int)
    (space : list.messages.length < list.length) :
    (queue.prvCopyDataToQueue item position).Represents { list with
      messages := if position = queueSendToBack then
          list.messages ++ [Buffer.toList item list.size]
        else Buffer.toList item list.size :: list.messages } := by
  obtain ⟨length, size, head, waiting⟩ := queue.prvCopyDataToQueue_same item position
  have room : list.messages.length < queue.uxLength := represents.length ▸ space
  refine ⟨length.trans represents.length, size.trans represents.size, ?_, ?_, fun message => ?_,
    fun some_ => ?_, ?_⟩
  · rw [waiting, represents.waiting]
    split <;> simp
  · dsimp only
    split <;> simp only [List.length_append, List.length_cons, List.length_nil] <;> omega
  · dsimp only
    split
    · simp only [List.mem_append, List.mem_singleton]
      rintro (old | rfl)
      · exact represents.widths message old
      · exact Buffer.toList_length ..
    · simp only [List.mem_cons]
      rintro (rfl | old)
      · exact Buffer.toList_length ..
      · exact represents.widths message old
  · rw [size] at some_
    obtain ⟨read, ring⟩ := represents.ring some_
    rw [← represents.size]
    split
    next back =>
      subst back
      exact ⟨read, ring.sendToBack some_ room item⟩
    next front => exact ring.sendToFront some_ represents.room room item front
  · rw [size, head]
    exact represents.room

theorem send (represents : queue.Represents list) (item : Nat → UInt8) (position : Int) :
    (queue.call (.send item position)).1 = (list.call (.send item position)).1 ∧
      (queue.call (.send item position)).2.Represents (list.call (.send item position)).2 := by
  have same : queue.uxMessagesWaiting < queue.uxLength ↔ list.messages.length < list.length := by
    rw [represents.waiting, represents.length]
  simp only [QueueDefinition.call, QueueDefinition.sendNow, MessageList.call, same]
  by_cases space : list.messages.length < list.length
  · rw [if_pos space, if_pos space]
    exact ⟨rfl, represents.copyToQueue item position space⟩
  · rw [if_neg space, if_neg space]
    exact ⟨rfl, represents⟩

theorem copyFromQueue {first : List UInt8} {rest : List (List UInt8)}
    (represents : queue.Represents list) (held : list.messages = first :: rest) :
    queue.prvCopyDataFromQueue.1 = first ∧
      Represents { queue.prvCopyDataFromQueue.2 with
        uxMessagesWaiting := queue.prvCopyDataFromQueue.2.uxMessagesWaiting - 1 }
          { list with messages := rest } := by
  have waiting := represents.waiting
  have fits := represents.fits
  rw [held, List.length_cons] at waiting fits
  have widths := represents.widths
  rw [held] at widths
  have ring : queue.uxItemSize ≠ 0 → queue.prvCopyDataFromQueue.1 = first ∧
      ∃ next, queue.prvCopyDataFromQueue.2.RingAt rest next := by
    intro some_
    obtain ⟨read, ring⟩ := represents.ring some_
    rw [held] at ring
    exact ring.copyFromQueue some_
  refine ⟨?_, represents.length, represents.size, ?_, Nat.le_of_succ_le fits, fun message member =>
    widths message (List.mem_cons_of_mem _ member), fun some_ => ?_, represents.room⟩
  · by_cases some_ : queue.uxItemSize = 0
    · have width := widths first List.mem_cons_self
      rw [← represents.size, some_] at width
      rw [List.length_eq_zero_iff.mp width, prvCopyDataFromQueue]
      simp [some_]
    · exact (ring some_).1
  · change queue.uxMessagesWaiting - 1 = rest.length
    omega
  · obtain ⟨next, there⟩ := (ring some_).2
    exact ⟨next, { there with }⟩

theorem receive (represents : queue.Represents list) :
    (queue.call .receive).1 = (list.call .receive).1 ∧
      (queue.call .receive).2.Represents (list.call .receive).2 := by
  rw [QueueDefinition.call, receiveNow, represents.waiting, MessageList.call]
  cases held : list.messages with
  | nil =>
      refine ⟨rfl, ?_⟩
      have same : list = { list with messages := [] } := by rw [← held]
      exact same ▸ represents
  | cons first rest =>
      obtain ⟨item, after⟩ := represents.copyFromQueue held
      exact ⟨congrArg (QueueAnswer.received ∘ some) item, after⟩

theorem peek (represents : queue.Represents list) :
    (queue.call .peek).1 = (list.call .peek).1 ∧
      (queue.call .peek).2.Represents (list.call .peek).2 := by
  rw [QueueDefinition.call, receiveNow, represents.waiting, MessageList.call]
  cases held : list.messages with
  | nil => exact ⟨rfl, represents⟩
  | cons first rest =>
      obtain ⟨item, -⟩ := represents.copyFromQueue held
      exact ⟨congrArg (QueueAnswer.received ∘ some) item, represents⟩

theorem call (represents : queue.Represents list) (next : QueueCall) :
    (queue.call next).1 = (list.call next).1 ∧
      (queue.call next).2.Represents (list.call next).2 := by
  cases next with
  | send item position => exact represents.send item position
  | receive => exact represents.receive
  | peek => exact represents.peek

theorem calls (represents : queue.Represents list) (rest : List QueueCall) :
    (queue.calls rest).1 = (list.calls rest).1 ∧
      (queue.calls rest).2.Represents (list.calls rest).2 := by
  induction rest generalizing queue list with
  | nil => exact ⟨rfl, represents⟩
  | cons first rest ih =>
      obtain ⟨answer, after⟩ := represents.call first
      obtain ⟨answers, last⟩ := ih after
      exact ⟨congrArg₂ List.cons answer answers, last⟩

end Represents

theorem represents_created (storage : Nat → UInt8) {queueStart uxQueueLength uxItemSize : Nat}
    (some_ : 0 < uxQueueLength) (room : uxItemSize ≤ queueStart) :
    (xQueueCreateExt storage queueStart uxQueueLength uxItemSize).Represents
      ⟨uxQueueLength, uxItemSize, []⟩ := by
  refine ⟨rfl, rfl, rfl, Nat.zero_le _, nofun, fun _ => ⟨uxQueueLength - 1, ?_, rfl, ?_, rfl, rfl⟩,
    room⟩
  · exact Nat.sub_lt some_ Nat.one_pos
  · change queueStart = queueStart + (uxQueueLength - 1 + 1 + 0) % uxQueueLength * uxItemSize
    rw [Nat.add_zero, Nat.sub_add_cancel some_, Nat.mod_self, Nat.zero_mul, Nat.add_zero]

/-- A queue that is used from its creation on answers every call as a list of messages with a
greatest length would. -/
theorem queue_is_messageList (storage : Nat → UInt8) {queueStart uxQueueLength uxItemSize : Nat}
    (some_ : 0 < uxQueueLength) (room : uxItemSize ≤ queueStart) (calls : List QueueCall) :
    let queue := xQueueCreateExt storage queueStart uxQueueLength uxItemSize
    let list := (MessageList.mk uxQueueLength uxItemSize [])
    (queue.calls calls).1 = (list.calls calls).1 ∧
      (queue.calls calls).2.uxMessagesWaiting = (list.calls calls).2.messages.length :=
  have all := (represents_created storage some_ room).calls calls
  ⟨all.1, all.2.waiting⟩

theorem queue_is_messageList_sample :
    let item (value : UInt8) : Nat → UInt8 := fun _ => value
    ((xQueueCreateExt (fun _ => 0) 8 2 1).calls [.send (item 1) queueSendToBack,
      .send (item 2) queueSendToFront, .send (item 3) queueSendToBack, .receive, .peek]).1 =
        [.sent true, .sent true, .sent false, .received (some [2]), .received (some [1])] := by
  intro item
  exact (queue_is_messageList (fun _ => 0) (by decide) (by decide) _).1.trans (by decide)

end QueueDefinition

end SmartMeter
