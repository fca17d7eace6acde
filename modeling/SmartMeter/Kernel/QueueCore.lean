import SmartMeter.Library.SlotRing

/-! `queue.c`: how items are copied into a queue and out of it. -/

namespace SmartMeter

def queueUnlocked : Int := -1
def queueLockedUnmodified : Int := 0

def queueSendToBack : Int := 0
def queueSendToFront : Int := 1

/-- `storage` is the memory that the pointers point into. The locks are numbers: fewer than 2 ^ 31
messages come or go while a queue is locked. -/
structure QueueDefinition where
  storage : Nat → UInt8
  pcHead : Nat
  pcTail : Nat
  pcWriteTo : Nat
  pcReadFrom : Nat
  uxMessagesWaiting : Nat
  uxLength : Nat
  uxItemSize : Nat
  xRxLock : Int
  xTxLock : Int

inductive QueueCall
  | send (pvItemToQueue : Nat → UInt8) (xCopyPosition : Int)
  | receive
  | peek

inductive QueueAnswer
  | sent (pass : Bool)
  | received (item : Option (List UInt8))
deriving DecidableEq

namespace QueueDefinition

def xQueueCreateExt (storage : Nat → UInt8) (queueStart uxQueueLength uxItemSize : Nat) :
    QueueDefinition where
  storage := storage
  pcHead := queueStart
  pcTail := queueStart + uxQueueLength * uxItemSize
  pcWriteTo := queueStart
  pcReadFrom := queueStart + (uxQueueLength - 1) * uxItemSize
  uxMessagesWaiting := 0
  uxLength := uxQueueLength
  uxItemSize := uxItemSize
  xRxLock := queueUnlocked
  xTxLock := queueUnlocked

def memcpy (target : Nat) (source : Nat → UInt8) (queue : QueueDefinition) : QueueDefinition :=
  { queue with storage := Buffer.copy queue.storage target source queue.uxItemSize }

def prvCopyDataToQueue (pvItemToQueue : Nat → UInt8) (xPosition : Int) (queue : QueueDefinition) :
    QueueDefinition :=
  let copied :=
    if queue.uxItemSize = 0 then queue
    else if xPosition = queueSendToBack then
      let pcWriteTo := queue.pcWriteTo + queue.uxItemSize
      { queue.memcpy queue.pcWriteTo pvItemToQueue with
        pcWriteTo := if pcWriteTo ≥ queue.pcTail then queue.pcHead else pcWriteTo }
    else
      let pcReadFrom := queue.pcReadFrom - queue.uxItemSize
      { queue.memcpy queue.pcReadFrom pvItemToQueue with
        pcReadFrom := if pcReadFrom < queue.pcHead then queue.pcTail - queue.uxItemSize
          else pcReadFrom }
  { copied with uxMessagesWaiting := copied.uxMessagesWaiting + 1 }

def prvCopyDataFromQueue (queue : QueueDefinition) : List UInt8 × QueueDefinition :=
  let pcReadFrom := queue.pcReadFrom + queue.uxItemSize
  let advanced := { queue with
    pcReadFrom := if pcReadFrom ≥ queue.pcTail then queue.pcHead else pcReadFrom }
  (Buffer.toList (fun index => advanced.storage (advanced.pcReadFrom + index)) queue.uxItemSize,
    advanced)

def sendNow (pvItemToQueue : Nat → UInt8) (xCopyPosition : Int) (queue : QueueDefinition) :
    Option QueueDefinition :=
  if queue.uxMessagesWaiting < queue.uxLength then
    some (queue.prvCopyDataToQueue pvItemToQueue xCopyPosition)
  else none

/-- An item comes out of the queue where there is one, and stays in it for `xJustPeeking`. -/
def receiveNow (xJustPeeking : Bool) (queue : QueueDefinition) :
    Option (List UInt8 × QueueDefinition) :=
  if queue.uxMessagesWaiting > 0 then
    let copied := queue.prvCopyDataFromQueue
    if xJustPeeking then some (copied.1, { copied.2 with pcReadFrom := queue.pcReadFrom })
    else some (copied.1, { copied.2 with uxMessagesWaiting := copied.2.uxMessagesWaiting - 1 })
  else none

def received (queue : QueueDefinition) (result : Option (List UInt8 × QueueDefinition)) :
    QueueAnswer × QueueDefinition :=
  (.received (result.map Prod.fst), (result.map Prod.snd).getD queue)

def call (queue : QueueDefinition) : QueueCall → QueueAnswer × QueueDefinition
  | .send pvItemToQueue xCopyPosition =>
      let sent := queue.sendNow pvItemToQueue xCopyPosition
      (.sent sent.isSome, sent.getD queue)
  | .receive => queue.received (queue.receiveNow false)
  | .peek => queue.received (queue.receiveNow true)

def prvLockQueue (queue : QueueDefinition) : QueueDefinition :=
  { queue with
    xRxLock := if queue.xRxLock = queueUnlocked then queueLockedUnmodified else queue.xRxLock
    xTxLock := if queue.xTxLock = queueUnlocked then queueLockedUnmodified else queue.xTxLock }

def prvIsQueueEmpty (queue : QueueDefinition) : Bool := decide (queue.uxMessagesWaiting = 0)

def prvIsQueueFull (queue : QueueDefinition) : Bool :=
  decide (queue.uxMessagesWaiting = queue.uxLength)

def calls : List QueueCall → QueueDefinition → List QueueAnswer × QueueDefinition
  | [], queue => ([], queue)
  | first :: rest, queue =>
      let answer := queue.call first
      let later := calls rest answer.2
      (answer.1 :: later.1, later.2)

end QueueDefinition

/-- What a queue is for: a list of at most `length` messages of `size` bytes. -/
structure MessageList where
  length : Nat
  size : Nat
  messages : List (List UInt8)

namespace MessageList

def call (list : MessageList) : QueueCall → QueueAnswer × MessageList
  | .send pvItemToQueue xCopyPosition =>
      if list.messages.length < list.length then
        let item := Buffer.toList pvItemToQueue list.size
        (.sent true, { list with
          messages := if xCopyPosition = queueSendToBack then list.messages ++ [item]
            else item :: list.messages })
      else (.sent false, list)
  | .receive => (.received list.messages.head?, { list with messages := list.messages.tail })
  | .peek => (.received list.messages.head?, list)

def calls : List QueueCall → MessageList → List QueueAnswer × MessageList
  | [], list => ([], list)
  | first :: rest, list =>
      let answer := list.call first
      let later := calls rest answer.2
      (answer.1 :: later.1, later.2)

end MessageList

end SmartMeter
