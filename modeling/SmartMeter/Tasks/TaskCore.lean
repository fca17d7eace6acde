import Mathlib.Logic.Function.Iterate

/-!
`wm_wl_task.c` and `wm_wl_mbox.c`: tasks that hand work to one receiving task through its mailbox.
A task does one action at a time and may be interrupted after each of them.
-/

namespace SmartMeter

/-- What the receiving task is asked to do. Pointers are words. -/
inductive TaskWork
  | callback (function ctx : UInt32)
  | timeout (msecs handler arg : UInt32)
  | untimeout (handler arg : UInt32)
deriving DecidableEq

inductive TaskCall
  | callbackStatic (function ctx : UInt32) (block : Bool) (msgId : Fin 8)
  | callback (function ctx : UInt32) (block : Bool)
  | addTimeout (msecs handler arg : UInt32)
  | untimeout (handler arg : UInt32)
deriving DecidableEq

/-- A message is a pointer: to a record of `wl_msg`, or to a block of its own. -/
inductive TaskMsg
  | static (msgId : Fin 8)
  | block (work : TaskWork)
deriving DecidableEq

namespace TaskCall

def work : TaskCall → TaskWork
  | callbackStatic function ctx _ _ => .callback function ctx
  | callback function ctx _ => .callback function ctx
  | addTimeout msecs handler arg => .timeout msecs handler arg
  | untimeout handler arg => .untimeout handler arg

def msg : TaskCall → TaskMsg
  | callbackStatic _ _ _ msgId => .static msgId
  | call => .block call.work

/-- The message goes through `tls_mbox_post`, otherwise through `tls_mbox_trypost`. -/
def block : TaskCall → Bool
  | callbackStatic _ _ block _ => block
  | callback _ _ block => block
  | addTimeout _ _ _ => true
  | untimeout _ _ => true

end TaskCall

/-- The `cbs` member of a record; its type is the same whenever the record is in a mailbox. -/
structure TaskRecord where
  function : UInt32
  ctx : UInt32
  cnt : UInt8
deriving DecidableEq

def TaskRecord.work (record : TaskRecord) : TaskWork := .callback record.function record.ctx

/-- Where a task is in a call. `tries` counts the attempts of the loop in `tls_mbox_post`. -/
inductive CallerStage
  | idle
  | enter (call : TaskCall)
  | alloc (call : TaskCall)
  | fill (function ctx : UInt32) (block : Bool) (msgId : Fin 8)
  | post (call : TaskCall) (tries : Nat)
  | count (msgId : Fin 8) (put : Bool)
deriving DecidableEq

inductive ReceiverStage
  | waiting
  | fetched (msg : TaskMsg)
  | loaded (msgId : Fin 8) (work : TaskWork)
  | running (work : TaskWork)
deriving DecidableEq

/-- What a call reported, and whether its message was put in the mailbox. -/
structure TaskReturn where
  success : Bool
  put : Bool
deriving DecidableEq

/-- `put` and `executed` are histories: the work put in the mailbox and the work done. -/
structure TaskState where
  capacity : Nat
  mboxValid : Bool
  mailbox : List TaskMsg
  records : Fin 8 → TaskRecord
  callers : Nat → CallerStage
  receiver : ReceiverStage
  returns : List TaskReturn
  put : List TaskWork
  executed : List TaskWork

namespace TaskState

def setCaller (state : TaskState) (task : Nat) (stage : CallerStage) : TaskState :=
  { state with callers := Function.update state.callers task stage }

def setRecord (state : TaskState) (msgId : Fin 8) (record : TaskRecord) : TaskState :=
  { state with records := Function.update state.records msgId record }

def finish (state : TaskState) (task : Nat) (success put : Bool) : TaskState :=
  { state.setCaller task .idle with returns := state.returns ++ [⟨success, put⟩] }

def afterPost (state : TaskState) (task : Nat) (call : TaskCall) (put : Bool) : TaskState :=
  match call with
  | .callbackStatic _ _ _ msgId => state.setCaller task (.count msgId put)
  | _ => state.finish task true put

def postMsg (state : TaskState) (task : Nat) (call : TaskCall) (tries : Nat) : TaskState :=
  if state.mailbox.length < state.capacity then
    afterPost { state with mailbox := state.mailbox ++ [call.msg], put := state.put ++ [call.work] }
      task call true
  else if call.block = false then state.finish task false false
  else if tries + 1 < 10 then state.setCaller task (.post call (tries + 1))
  else state.afterPost task call false

/-- `memory` is whether `tls_mem_alloc` gives a block. -/
def callerStep (state : TaskState) (task : Nat) (memory : Bool) : TaskState :=
  match state.callers task with
  | .idle => state
  | .enter (.callbackStatic function ctx block msgId) =>
      if (state.records msgId).cnt > 0 ∨ state.mboxValid = false then
        state.finish task false false
      else state.setCaller task (.fill function ctx block msgId)
  | .enter call =>
      if state.mboxValid = false then state.finish task false false
      else state.setCaller task (.alloc call)
  | .alloc call =>
      if memory then state.setCaller task (.post call 0) else state.finish task false false
  | .fill function ctx block msgId =>
      (state.setRecord msgId ⟨function, ctx, (state.records msgId).cnt⟩).setCaller task
        (.post (.callbackStatic function ctx block msgId) 0)
  | .post call tries => state.postMsg task call tries
  | .count msgId put =>
      (state.setRecord msgId
        { state.records msgId with cnt := (state.records msgId).cnt + 1 }).finish task true put

/-- A task begins a call when it is in no other. -/
def beginCall (state : TaskState) (task : Nat) (call : TaskCall) : TaskState :=
  if state.callers task = .idle then state.setCaller task (.enter call) else state

/-- `task_thread`. The timers that run out while it waits are no messages. -/
def receiverStep (state : TaskState) : TaskState :=
  match state.receiver with
  | .waiting =>
      match state.mailbox with
      | [] => state
      | msg :: rest => { state with mailbox := rest, receiver := .fetched msg }
  | .fetched (.static msgId) =>
      { state with receiver := .loaded msgId (state.records msgId).work }
  | .fetched (.block work) => { state with receiver := .running work }
  | .loaded msgId work =>
      { state.setRecord msgId
          { state.records msgId with cnt := (state.records msgId).cnt - 1 } with
        receiver := .running work }
  | .running work => { state with receiver := .waiting, executed := state.executed ++ [work] }

def fresh (capacity : Nat) (mboxValid : Bool) : TaskState where
  capacity := capacity
  mboxValid := mboxValid
  mailbox := []
  records := fun _ => ⟨0, 0, 0⟩
  callers := fun _ => .idle
  receiver := .waiting
  returns := []
  put := []
  executed := []

end TaskState

/-- The actions a task does before another one gets the processor. -/
inductive TaskSlice
  | caller (task : Nat) (actions : List (TaskCall ⊕ Bool))
  | receiver (count : Nat)

namespace TaskState

def callerAct (task : Nat) (state : TaskState) : TaskCall ⊕ Bool → TaskState
  | .inl call => state.beginCall task call
  | .inr memory => state.callerStep task memory

def runSlice (state : TaskState) : TaskSlice → TaskState
  | .caller task actions => actions.foldl (callerAct task) state
  | .receiver count => receiverStep^[count] state

end TaskState

end SmartMeter
