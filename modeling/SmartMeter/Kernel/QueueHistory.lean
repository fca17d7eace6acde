import SmartMeter.Kernel.QueueSystem

/-! What tasks and interrupts get from a queue, in the order of their critical sections. -/

namespace SmartMeter

open Runs

/-- A look at the queue in which the call is carried out or refused. An interrupt is no caller. -/
structure QueueTurn (T : Type) where
  caller : Option T
  operation : QueueCall
  answer : QueueAnswer

def QueueTurn.served {T : Type} (turn : QueueTurn T) : Option (T × QueueCall) :=
  if turn.answer.passed then turn.caller.map (·, turn.operation) else none

namespace QueueDefinition

variable {queue : QueueDefinition} {list : MessageList}

/-- The locks have no part in it. -/
theorem Represents.relock (represents : queue.Represents list) (xRxLock xTxLock : Int) :
    Represents { queue with xRxLock := xRxLock, xTxLock := xTxLock } list := by
  refine ⟨represents.length, represents.size, represents.waiting, represents.fits,
    represents.widths, fun some_ => ?_, represents.room⟩
  obtain ⟨read, ring⟩ := represents.ring some_
  exact ⟨read, ring.inside, ring.reads, ring.writes, ring.tail, ring.contents⟩

theorem call_of_failed {operation : QueueCall}
    (failed : (queue.call operation).1.passed = false) : (queue.call operation).2 = queue := by
  cases operation with
  | send item position =>
      rw [call, sendNow] at failed ⊢
      split at failed
      next => cases failed
      next full =>
        rw [if_neg full]
        rfl
  | receive =>
      rw [call, receiveNow] at failed ⊢
      split at failed
      next => cases failed
      next none_ =>
        rw [if_neg none_]
        rfl
  | peek =>
      rw [call, receiveNow] at failed ⊢
      split at failed
      next => cases failed
      next none_ =>
        rw [if_neg none_]
        rfl

end QueueDefinition

variable {T Q : Type} [DecidableEq T] [DecidableEq Q]

namespace QueueSystem

variable {system : QueueSystem T Q} {pxQueue : Q} {task : T} {program : QueueProgram Q}

def turn (system : QueueSystem T Q) (pxQueue : Q) (caller : Option T) (operation : QueueCall) :
    QueueTurn T :=
  ⟨caller, operation, ((system.queues pxQueue).call operation).1⟩

def turnOf (system : QueueSystem T Q) (pxQueue : Q) : QueueEvent T Q → Option (QueueTurn T)
  | .proceed =>
      match system.programs system.kernel.pxCurrentTCB with
      | none => none
      | some program =>
          if program.point = .loop ∧ program.pxQueue = pxQueue then
            some (system.turn pxQueue system.kernel.pxCurrentTCB program.operation)
          else none
  | .sendFromISR other item position _ =>
      if other = pxQueue then some (system.turn pxQueue none (.send item position)) else none
  | .receiveFromISR other _ =>
      if other = pxQueue then some (system.turn pxQueue none .receive) else none
  | _ => none

def turns (pxQueue : Q) : QueueSystem T Q → List (QueueEvent T Q) → List (QueueTurn T)
  | _, [] => []
  | system, event :: rest =>
      (system.turnOf pxQueue event).toList ++ turns pxQueue (system.step event) rest

/-- The calls on the queue that have come back to their tasks with success, the last one first. -/
def served (system : QueueSystem T Q) (pxQueue : Q) : List (T × QueueCall) :=
  (system.returns.filter fun entry => entry.passed && decide (entry.program.pxQueue = pxQueue)).map
    fun entry => (entry.task, entry.program.operation)

/-- What a step does to the messages of a queue, and to the list of those that were served. -/
structure Turned (system after : QueueSystem T Q) (pxQueue : Q) (turn : Option (QueueTurn T)) :
    Prop where
  messages : ∀ list, (system.queues pxQueue).Represents list →
    match turn with
    | none => (after.queues pxQueue).Represents list
    | some turn => turn.answer = (list.call turn.operation).1 ∧
        (after.queues pxQueue).Represents (list.call turn.operation).2
  returns : after.served pxQueue = (turn.bind QueueTurn.served).toList ++ system.served pxQueue

theorem turned_loopTop (task : T) (program : QueueProgram Q) (system : QueueSystem T Q)
    (pxQueue : Q) :
    Turned system (system.loopTop task program) pxQueue
      (if program.pxQueue = pxQueue then some (system.turn pxQueue task program.operation)
        else none) := by
  rw [loopTop]
  split
  next passed =>
    split
    next same =>
      subst same
      refine ⟨fun list represents => ?_, ?_⟩
      · obtain ⟨answer, after⟩ := represents.call program.operation
        refine ⟨answer, ?_⟩
        dsimp only [finish, setQueue]
        rwa [Function.update_self]
      · simp [served, finish, setQueue, QueueTurn.served, turn, passed]
    next other =>
      refine ⟨fun list represents => ?_, ?_⟩
      · dsimp only [finish, setQueue]
        rwa [Function.update_of_ne (Ne.symm other)]
      · simp [served, finish, setQueue, other]
  next waits =>
    have failed := Bool.eq_false_iff.mpr waits
    have stays {after : QueueSystem T Q} (queues : after.queues = system.queues)
        (returns : after.served pxQueue = system.served pxQueue) :
        Turned system after pxQueue (if program.pxQueue = pxQueue then
          some (system.turn pxQueue task program.operation) else none) := by
      split
      next same =>
        subst same
        refine ⟨fun list represents => ?_, ?_⟩
        · obtain ⟨answer, last⟩ := represents.call program.operation
          rw [QueueDefinition.call_of_failed failed] at last
          exact ⟨answer, queues ▸ last⟩
        · rw [returns]
          simp [QueueTurn.served, turn, failed]
      next other => exact ⟨fun list represents => queues ▸ represents, returns⟩
    split
    next => exact stays rfl (by simp [served, finish])
    next => exact stays rfl rfl

omit [DecidableEq T] in
/-- A step that is no turn at the queue. -/
theorem turned_none {after : QueueSystem T Q} (pxQueue changed : Q) (xRxLock xTxLock : Int)
    (queues : after.queues = Function.update system.queues changed
      { system.queues changed with xRxLock := xRxLock, xTxLock := xTxLock })
    (returns : after.served pxQueue = system.served pxQueue) :
    Turned system after pxQueue none := by
  refine ⟨fun list represents => ?_, returns⟩
  dsimp only
  rw [queues]
  by_cases same : pxQueue = changed
  · subst same
    rw [Function.update_self]
    exact represents.relock xRxLock xTxLock
  · rwa [Function.update_of_ne same]

omit [DecidableEq T] in
theorem turned_same {after : QueueSystem T Q} (pxQueue : Q) (queues : after.queues = system.queues)
    (returns : after.served pxQueue = system.served pxQueue) :
    Turned system after pxQueue none :=
  ⟨fun _ represents => queues ▸ represents, returns⟩

theorem turned_taskStep (task : T) (program : QueueProgram Q) (system : QueueSystem T Q)
    (pxQueue : Q) :
    Turned system (system.taskStep task program) pxQueue
      (if program.point = .loop ∧ program.pxQueue = pxQueue then
        some (system.turn pxQueue task program.operation) else none) := by
  cases point : program.point with
  | loop =>
      rw [taskStep, point]
      simpa using turned_loopTop task program system pxQueue
  | suspendAll =>
      rw [taskStep, point]
      exact turned_same pxQueue rfl rfl
  | lockQueue =>
      rw [taskStep, point]
      exact turned_none pxQueue program.pxQueue _ _ rfl rfl
  | checkForTimeOut =>
      rw [taskStep, point]
      exact turned_same pxQueue rfl rfl
  | checkQueue =>
      rw [taskStep, point]
      exact turned_same pxQueue rfl rfl
  | placeOnEventList =>
      rw [taskStep, point]
      exact turned_same pxQueue rfl rfl
  | unlockTx outcome =>
      rw [taskStep, point]
      exact turned_none pxQueue program.pxQueue _ _ rfl rfl
  | unlockRx outcome =>
      rw [taskStep, point]
      exact turned_none pxQueue program.pxQueue _ _ rfl rfl
  | resumeAll outcome =>
      rw [taskStep, point]
      cases outcome with
      | blocked => exact turned_same pxQueue rfl rfl
      | again => exact turned_same pxQueue rfl rfl
      | expired => exact turned_same pxQueue rfl (by simp [served, resume, finish])

omit [DecidableEq T] in
theorem turned_isr {after : QueueSystem T Q} (pxQueue other : Q) (operation : QueueCall)
    (returns : after.returns = system.returns) (xRxLock xTxLock : Int)
    (queues : after.queues = Function.update system.queues other
      { ((system.queues other).call operation).2 with xRxLock := xRxLock, xTxLock := xTxLock }) :
    Turned system after pxQueue
      (if other = pxQueue then some (system.turn pxQueue none operation) else none) := by
  have serves : after.served pxQueue = system.served pxQueue := by rw [served, served, returns]
  split
  next same =>
    subst same
    refine ⟨fun list represents => ?_, ?_⟩
    · obtain ⟨answer, last⟩ := represents.call operation
      refine ⟨answer, ?_⟩
      rw [queues, Function.update_self]
      exact last.relock xRxLock xTxLock
    · rw [serves]
      simp [QueueTurn.served, turn]
  next apart =>
    refine ⟨fun list represents => ?_, serves⟩
    dsimp only
    rwa [queues, Function.update_of_ne (Ne.symm apart)]

omit [DecidableEq T] in
theorem turned_refused (pxQueue other : Q) {operation : QueueCall}
    (failed : ((system.queues other).call operation).1.passed = false) :
    Turned system system pxQueue
      (if other = pxQueue then some (system.turn pxQueue none operation) else none) := by
  refine turned_isr pxQueue other operation rfl (system.queues other).xRxLock
    (system.queues other).xTxLock ?_
  rw [QueueDefinition.call_of_failed failed]
  exact (Function.update_eq_self ..).symm

theorem turned_step (system : QueueSystem T Q) (pxQueue : Q) (event : QueueEvent T Q) :
    Turned system (system.step event) pxQueue (system.turnOf pxQueue event) := by
  cases event with
  | call other operation ticks => exact turned_same pxQueue rfl rfl
  | proceed =>
      rw [step, turnOf]
      cases system.programs system.kernel.pxCurrentTCB with
      | none => exact turned_same pxQueue rfl rfl
      | some program => exact turned_taskStep system.kernel.pxCurrentTCB program system pxQueue
  | sendFromISR other item position isrcount =>
      rw [step, turnOf, xQueueGenericSendFromISR]
      split
      next =>
        split
        next => exact turned_isr pxQueue other (.send item position) rfl _ _ rfl
        next => exact turned_isr pxQueue other (.send item position) rfl _ _ rfl
      next failed => exact turned_refused pxQueue other (Bool.eq_false_iff.mpr failed)
  | receiveFromISR other isrcount =>
      rw [step, turnOf, xQueueReceiveFromISR]
      split
      next =>
        split
        next => exact turned_isr pxQueue other .receive rfl _ _ rfl
        next => exact turned_isr pxQueue other .receive rfl _ _ rfl
      next failed => exact turned_refused pxQueue other (Bool.eq_false_iff.mpr failed)
  | other event => exact turned_same pxQueue rfl rfl

/-- In every interleaving the answers that a queue gives are those of a list of messages to the same
calls one after another, and each call that comes back with success was carried out once. -/
theorem queue_is_sequential (task : T) (priority : Nat) (queues : Q → QueueDefinition) (pxQueue : Q)
    (storage : Nat → UInt8) {queueStart uxQueueLength uxItemSize : Nat} (some_ : 0 < uxQueueLength)
    (room : uxItemSize ≤ queueStart)
    (made : queues pxQueue = .xQueueCreateExt storage queueStart uxQueueLength uxItemSize)
    (events : List (QueueEvent T Q)) :
    let list := MessageList.mk uxQueueLength uxItemSize []
    let start := created task priority queues
    let turns := turns pxQueue start events
    let last := events.foldl QueueSystem.step start
    turns.map QueueTurn.answer = (list.calls (turns.map QueueTurn.operation)).1 ∧
      (last.queues pxQueue).Represents (list.calls (turns.map QueueTurn.operation)).2 ∧
      last.served pxQueue = (turns.filterMap QueueTurn.served).reverse := by
  have run {events : List (QueueEvent T Q)} {system : QueueSystem T Q} {list : MessageList}
      (represents : (system.queues pxQueue).Represents list) :
      let turns := turns pxQueue system events
      let last := events.foldl QueueSystem.step system
      turns.map QueueTurn.answer = (list.calls (turns.map QueueTurn.operation)).1 ∧
        (last.queues pxQueue).Represents (list.calls (turns.map QueueTurn.operation)).2 ∧
        last.served pxQueue =
          (turns.filterMap QueueTurn.served).reverse ++ system.served pxQueue := by
    induction events generalizing system list with
    | nil => exact ⟨rfl, represents, rfl⟩
    | cons event rest ih =>
        have turned := turned_step system pxQueue event
        have after := turned.messages list represents
        have serves := turned.returns
        rw [turns]
        cases taken : system.turnOf pxQueue event with
        | none =>
            rw [taken] at after serves
            obtain ⟨answers, last, returns⟩ := ih after
            exact ⟨answers, last, returns.trans (congrArg _ serves)⟩
        | some turn =>
            rw [taken] at after serves
            obtain ⟨answers, last, returns⟩ := ih after.2
            refine ⟨congrArg₂ List.cons after.1 answers, last, returns.trans ?_⟩
            rw [serves]
            cases serving : turn.served <;> simp [serving]
  have start : ((created task priority queues : QueueSystem T Q).queues pxQueue).Represents
      ⟨uxQueueLength, uxItemSize, []⟩ := by
    change (queues pxQueue).Represents _
    rw [made]
    exact QueueDefinition.represents_created storage some_ room
  obtain ⟨answers, last, returns⟩ := run start
  exact ⟨answers, last, returns.trans (List.append_nil _)⟩

/-- A task waits for a message until an interrupt sends one, and then the next one is sent. -/
def sentMessages : List (QueueEvent Nat Unit) :=
  .other (.vTaskStartScheduler 8 9) :: .call () .receive 5 :: (List.replicate 9 .proceed ++
    [.other .pendSV, .sendFromISR () (fun _ => 7) queueSendToBack 0, .other .pendSV, .proceed,
      .proceed, .sendFromISR () (fun _ => 9) queueSendToFront 0])

theorem queue_is_sequential_sentMessages :
    (turns () (created 1 2 fun _ => .xQueueCreateExt (fun _ => 0) 4 2 1) sentMessages).map
      QueueTurn.answer = [.received none, .sent true, .received (some [7]), .sent true] := by
  have sequential := (queue_is_sequential 1 2
    (fun _ : Unit => .xQueueCreateExt (fun _ => 0) 4 2 1) ()
    (fun _ => 0) (by decide) (by decide) rfl sentMessages).1
  exact sequential.trans (by decide +kernel)

end QueueSystem

end SmartMeter
