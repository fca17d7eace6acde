import SmartMeter.Library.Numbered
import SmartMeter.Params.ParamStore
import SmartMeter.Platform.UartCore
import SmartMeter.Fwup.FwupCore

/-!
`uart_fwup_send` of `wm_uart_task.c`: blocks of 528 bytes taken from the receive ring of a UART
in data mode, checked, answered and handed to the update.
-/

namespace SmartMeter

open RingBuffer

abbrev FwupBlock := Nat → UInt8

def uartUpfwDataSize : Nat := 528
def tlsFwupBlkSize : Nat := 512

namespace FwupBlock

def number (block : FwupBlock) : Nat := wordAt block 0 2
def data (block : FwupBlock) : Nat → UInt8 := fun index => block (4 + index)
def crc32 (block : FwupBlock) : UInt32 := UInt32.ofNat (wordAt block 516 4)

def payload (block : FwupBlock) : List UInt8 := Buffer.toList block.data tlsFwupBlkSize

end FwupBlock

inductive UartCmdMode
  | atcmd
  | ricmd
  | trans
  | atdata
  | atsnd
deriving DecidableEq

structure TlsUart where
  uartNo : UInt8
  recv : TlsUartCircBuf
  cmdMode : UartCmdMode

structure UpdateModule where
  system : FwupSystem
  receivedNumber : Int

def UpdateModule.tlsFwupGetCurrentSessionId (update : UpdateModule) : UInt32 :=
  match update.system.fwup with
  | none => 0
  | some fwup => fwup.currentSessionId

def tlsFwupSetUpdateNumer (number : Int) (update : UpdateModule) : Nat × UpdateModule :=
  if 1 = number - update.receivedNumber then (0, { update with receivedNumber := number })
  else (0xFFFF, update)

inductive HostifMode
  | uart0
  | uart1Ls
deriving DecidableEq

structure CmdRsp where
  hostifType : HostifMode
  text : String
deriving DecidableEq

structure ResponseResources where
  cmdRsp : Bool
  txMsg : Bool
  txData : Bool
  callback : Bool

def ResponseResources.All (resources : ResponseResources) : Prop :=
  resources.cmdRsp = true ∧ resources.txMsg = true ∧ resources.txData = true ∧
    resources.callback = true

instance (resources : ResponseResources) : Decidable resources.All :=
  inferInstanceAs (Decidable (_ ∧ _))

def uartSendTxMsg (resources : ResponseResources) (response : CmdRsp) : Option CmdRsp :=
  if resources.txData = false then none
  else if resources.callback = false then none
  else some response

def tlsHostifProcessCmdrsp (resources : ResponseResources) (response : CmdRsp) : Option CmdRsp :=
  if resources.txMsg = false then none
  else uartSendTxMsg resources response

def fwupRspText (status : Nat) : String :=
  if status ≠ 0 then "+OK=" ++ toString status ++ "\r\n\r\n"
  else "+ERR=" ++ toString status ++ "\r\n\r\n"

def uartFwupRsp (resources : ResponseResources) (portno : UInt8) (status : Nat) : Option CmdRsp :=
  if resources.cmdRsp = false then none
  else
    let hostifType := if portno = 0 then HostifMode.uart0 else .uart1Ls
    tlsHostifProcessCmdrsp resources ⟨hostifType, fwupRspText status⟩

structure BlockResources where
  block : Option (Nat → UInt8)
  response : ResponseResources
  request : RequestMemory

inductive BlockCall
  | response (status : Nat) (queued : Option CmdRsp)
  | requestSync (sessionId : UInt32) (request : FwupRequest)

structure BlockReturn where
  uart : TlsUart
  update : UpdateModule
  calls : List BlockCall

def copyBlock (recv : TlsUartCircBuf) (p : Nat → UInt8) : Nat → TlsUartCircBuf × (Nat → UInt8)
  | 0 => (recv, p)
  | i + 1 =>
      let copied := copyBlock recv p i
      (copied.1.drop 1, Function.update copied.2 i (copied.1.cells copied.1.tail))

def applyBlock (engine : CrcEngine) (resources : BlockResources) (uart : TlsUart) (pfwup : FwupBlock)
    (sessionId : UInt32) (update : UpdateModule) : BlockReturn :=
  if getCrc32 pfwup (uartUpfwDataSize - 12) = pfwup.crc32 then
    let numbered := tlsFwupSetUpdateNumer pfwup.number update
    if numbered.1 = 0 then
      let request : FwupRequest := ⟨pfwup.data, UInt32.ofNat tlsFwupBlkSize⟩
      let queued := uartFwupRsp resources.response uart.uartNo 1
      let requested := tlsFwupRequestSync engine resources.request sessionId request
        numbered.2.system
      ⟨uart, { numbered.2 with system := requested.system },
        [.response 1 queued, .requestSync sessionId request]⟩
    else ⟨uart, numbered.2, [.response 0 (uartFwupRsp resources.response uart.uartNo 0)]⟩
  else ⟨uart, update, [.response 0 (uartFwupRsp resources.response uart.uartNo 0)]⟩

def uartFwupSend (engine : CrcEngine) (resources : BlockResources) (start : TlsUart)
    (update : UpdateModule) : BlockReturn :=
  if TlsUartCircBuf.cnt start.recv ≥ uartUpfwDataSize then
    let uart := { start with cmdMode := .atcmd }
    match resources.block with
    | none => ⟨{ uart with recv := uart.recv.drop uartUpfwDataSize }, update, []⟩
    | some memory =>
        let copied := copyBlock uart.recv memory uartUpfwDataSize
        let uart := { uart with recv := copied.1 }
        let sessionId := update.tlsFwupGetCurrentSessionId
        if sessionId ≠ 0 then applyBlock engine resources uart copied.2 sessionId update
        else ⟨uart, update, []⟩
  else ⟨start, update, []⟩

/-- `uart_rx` where data mode is concerned. -/
def uartRx (engine : CrcEngine) (resources : BlockResources) (uart : TlsUart)
    (update : UpdateModule) : BlockReturn :=
  if uart.cmdMode = .atdata then uartFwupSend engine resources uart update
  else ⟨uart, update, []⟩

def FwupBlock.numbered (block : FwupBlock) : Option Nat :=
  if getCrc32 block (uartUpfwDataSize - 12) = block.crc32 then some block.number else none

def BlockCall.passed : BlockCall → Option (List UInt8)
  | .requestSync _ request => some (Buffer.toList request.data request.dataLen.toNat)
  | .response _ _ => none

def BlockCall.positive : BlockCall → Bool
  | .response _ (some queued) => queued.text == "+OK=1\r\n\r\n"
  | _ => false

def Heard (resources : BlockResources) (update : UpdateModule) : Prop :=
  update.tlsFwupGetCurrentSessionId ≠ 0 ∧ resources.block.isSome = true

instance (resources : BlockResources) (update : UpdateModule) : Decidable (Heard resources update) :=
  inferInstanceAs (Decidable (_ ∧ _))

def TlsUart.block (uart : TlsUart) : FwupBlock :=
  fun index => uart.recv.contents.getD index 0

structure Served where
  before : TlsUart
  update : UpdateModule
  resources : BlockResources
  sent : BlockReturn

namespace Served

def block (served : Served) : FwupBlock := served.before.block

def passed (served : Served) : List (List UInt8) := served.sent.calls.filterMap BlockCall.passed

def positive (served : Served) : Bool := served.sent.calls.any BlockCall.positive

end Served

def TlsUart.Ready (uart : TlsUart) : Prop :=
  uart.cmdMode = .atdata ∧ uartUpfwDataSize ≤ uart.recv.count

instance (uart : TlsUart) : Decidable uart.Ready := inferInstanceAs (Decidable (_ ∧ _))

structure UploadState where
  uart : TlsUart
  update : UpdateModule
  served : List Served

/-- Between two calls anything may happen to the ring, the mode and the session's image; only
`tls_fwup_enter` and `tls_fwup_exit` write `received_number`. -/
inductive UploadOp
  | rx (resources : BlockResources)
  | other (uart : TlsUart) (system : FwupSystem)

def UploadState.step (engine : CrcEngine) (state : UploadState) : UploadOp → UploadState
  | .rx resources =>
      let sent := uartRx engine resources state.uart state.update
      ⟨sent.uart, sent.update,
        if state.uart.Ready then state.served ++ [⟨state.uart, state.update, resources, sent⟩]
        else state.served⟩
  | .other uart system => { state with uart, update := { state.update with system } }

def heardBlocks (served : List Served) : List FwupBlock :=
  (served.filter fun one => Heard one.resources one.update).map Served.block

/-- The intact blocks `0`, `1`, `2` and so on, each once. -/
def applied (served : List Served) : List FwupBlock :=
  Numbered.taken FwupBlock.numbered 0 (heardBlocks served)

/-- `answerable` is what a positive response needs besides the block's being applied. -/
structure AppliedInOrder (answerable : Served → Prop) (served : List Served) : Prop where
  passed : served.flatMap Served.passed = (applied served).map FwupBlock.payload
  order : (applied served).Sublist (heardBlocks served)
  numbers : (applied served).map FwupBlock.numbered = (List.range (applied served).length).map some
  own : ∀ one ∈ served, one.passed = [] ∨ one.passed = [one.block.payload]
  answered : ∀ one ∈ served, one.positive = true ↔ one.passed ≠ [] ∧ answerable one
  consumed : ∀ one ∈ served, uartUpfwDataSize ≤ one.before.recv.contents.length ∧
    one.sent.uart.recv.contents = one.before.recv.contents.drop uartUpfwDataSize

theorem copyBlock_recv (recv : TlsUartCircBuf) (p : Nat → UInt8) (count : Nat) :
    (copyBlock recv p count).1 = recv.drop count := by
  induction count with
  | zero => exact recv.drop_zero.symm
  | succ i ih => rw [copyBlock, ih, Ring.drop_drop]

theorem copyBlock_byte (recv : TlsUartCircBuf) (p : Nat → UInt8) {count index : Nat}
    (inside : index < count) : (copyBlock recv p count).2 index = recv.ahead index := by
  induction count with
  | zero => omega
  | succ i ih =>
      rw [copyBlock, copyBlock_recv]
      by_cases last : index = i
      · subst last
        exact Function.update_self ..
      · exact (Function.update_of_ne last ..).trans (ih (by omega))

def SameBlock (first second : FwupBlock) : Prop :=
  ∀ index < uartUpfwDataSize, first index = second index

section

variable {first second : FwupBlock}

theorem SameBlock.wordAt (same : SameBlock first second) {offset count : Nat}
    (inside : offset + count ≤ uartUpfwDataSize) :
    wordAt first offset count = wordAt second offset count :=
  wordAt_congr fun index bound => same (offset + index) (by omega)

theorem SameBlock.number (same : SameBlock first second) : first.number = second.number :=
  same.wordAt (by decide)

theorem SameBlock.crc32 (same : SameBlock first second) : first.crc32 = second.crc32 :=
  congrArg UInt32.ofNat (same.wordAt (by decide))

theorem SameBlock.payload (same : SameBlock first second) : first.payload = second.payload := by
  have size : uartUpfwDataSize = 528 := rfl
  have data : tlsFwupBlkSize = 512 := rfl
  exact Buffer.toList_congr fun index inside => same (4 + index) (by omega)

theorem SameBlock.numbered (same : SameBlock first second) : first.numbered = second.numbered := by
  have sum := @getCrc32_congr first second (uartUpfwDataSize - 12) fun index inside =>
    same index (Nat.lt_of_lt_of_le inside (by decide))
  rw [FwupBlock.numbered, FwupBlock.numbered, sum, same.crc32, same.number]

end

theorem uartFwupRsp_all {resources : ResponseResources} (all : resources.All) (portno : UInt8)
    (status : Nat) : uartFwupRsp resources portno status =
      some ⟨if portno = 0 then .uart0 else .uart1Ls, fwupRspText status⟩ := by
  obtain ⟨cmdRsp, txMsg, txData, callback⟩ := all
  simp [uartFwupRsp, tlsHostifProcessCmdrsp, uartSendTxMsg, cmdRsp, txMsg, txData, callback]

theorem uartFwupRsp_missing {resources : ResponseResources} (missing : ¬resources.All)
    (portno : UInt8) (status : Nat) : uartFwupRsp resources portno status = none := by
  obtain ⟨cmdRsp, txMsg, txData, callback⟩ := resources
  cases cmdRsp with
  | false => rfl
  | true =>
      cases txMsg with
      | false => rfl
      | true =>
          cases txData with
          | false => rfl
          | true =>
              cases callback with
              | false => rfl
              | true => exact absurd ⟨rfl, rfl, rfl, rfl⟩ missing

@[simp] theorem positive_one (resources : ResponseResources) (portno : UInt8) :
    (BlockCall.response 1 (uartFwupRsp resources portno 1)).positive = decide resources.All := by
  by_cases all : resources.All
  · rw [uartFwupRsp_all all, decide_eq_true all]
    rfl
  · rw [uartFwupRsp_missing all, decide_eq_false all]
    rfl

@[simp] theorem positive_zero (resources : ResponseResources) (portno : UInt8) :
    (BlockCall.response 0 (uartFwupRsp resources portno 0)).positive = false := by
  by_cases all : resources.All
  · rw [uartFwupRsp_all all]
    rfl
  · rw [uartFwupRsp_missing all]
    rfl

@[simp] theorem positive_requestSync (sessionId : UInt32) (request : FwupRequest) :
    (BlockCall.requestSync sessionId request).positive = false := rfl

/-- What a call makes of a block: it applies it, or all stays but for a negative response. -/
structure Applies (sent : BlockReturn) (payload : List UInt8) (number : Int) (all : Bool) : Prop where
  passed : sent.calls.filterMap BlockCall.passed = [payload]
  positive : sent.calls.any BlockCall.positive = all
  number : sent.update.receivedNumber = number

structure Refuses (sent : BlockReturn) (number : Int) : Prop where
  passed : sent.calls.filterMap BlockCall.passed = []
  positive : sent.calls.any BlockCall.positive = false
  number : sent.update.receivedNumber = number

section

variable {resources : BlockResources} {uart : TlsUart} {pfwup : FwupBlock} {sessionId : UInt32}
  {update : UpdateModule} {count : Nat}

theorem applyBlock_uart (engine : CrcEngine) :
    (applyBlock engine resources uart pfwup sessionId update).uart = uart := by
  unfold applyBlock
  split
  · dsimp only
    split <;> rfl
  · rfl

theorem numbered_eq_some {number : Nat} : pfwup.numbered = some number ↔
    getCrc32 pfwup (uartUpfwDataSize - 12) = pfwup.crc32 ∧ pfwup.number = number := by
  unfold FwupBlock.numbered
  split <;> simp_all

theorem tlsFwupSetUpdateNumer_next (waits : update.receivedNumber = (count : Int) - 1) :
    tlsFwupSetUpdateNumer count update = (0, { update with receivedNumber := count }) :=
  if_pos (by omega)

theorem tlsFwupSetUpdateNumer_other {number : Nat} (waits : update.receivedNumber = (count : Int) - 1)
    (other : number ≠ count) : tlsFwupSetUpdateNumer number update = (0xFFFF, update) :=
  if_neg (by omega)

theorem applyBlock_expected (engine : CrcEngine) (waits : update.receivedNumber = (count : Int) - 1)
    (expected : pfwup.numbered = some count) :
    Applies (applyBlock engine resources uart pfwup sessionId update) pfwup.payload count
      (decide resources.response.All) := by
  obtain ⟨intact, number⟩ := numbered_eq_some.mp expected
  unfold applyBlock
  rw [if_pos intact, number, tlsFwupSetUpdateNumer_next waits]
  constructor
  · rfl
  · simp
  · rfl

theorem applyBlock_other (engine : CrcEngine) (waits : update.receivedNumber = (count : Int) - 1)
    (other : pfwup.numbered ≠ some count) :
    Refuses (applyBlock engine resources uart pfwup sessionId update) (count - 1) := by
  unfold applyBlock
  by_cases intact : getCrc32 pfwup (uartUpfwDataSize - 12) = pfwup.crc32
  · have another : pfwup.number ≠ count := fun same => other (numbered_eq_some.mpr ⟨intact, same⟩)
    rw [if_pos intact, tlsFwupSetUpdateNumer_other waits another]
    constructor
    · rfl
    · simp
    · exact waits
  · rw [if_neg intact]
    constructor
    · rfl
    · simp
    · exact waits

end

section

variable {resources : BlockResources} {start : TlsUart} {update : UpdateModule} {count : Nat}

theorem copyBlock_same (memory : Nat → UInt8) (enough : uartUpfwDataSize ≤ start.recv.count) :
    SameBlock (copyBlock start.recv memory uartUpfwDataSize).2 start.block := by
  intro index inside
  have unread : index < start.recv.count := Nat.lt_of_lt_of_le inside enough
  rw [copyBlock_byte _ _ inside, TlsUart.block, List.getD_eq_getElem?_getD,
    Ring.getElem?_contents _ unread, Option.getD_some]

theorem uartFwupSend_recv (engine : CrcEngine) (enough : uartUpfwDataSize ≤ start.recv.count) :
    (uartFwupSend engine resources start update).uart.recv = start.recv.drop uartUpfwDataSize := by
  unfold uartFwupSend
  rw [cnt_eq_count, if_pos enough]
  cases resources.block with
  | none => rfl
  | some memory =>
      dsimp only
      split
      · rw [applyBlock_uart]
        exact copyBlock_recv ..
      · exact copyBlock_recv ..

theorem uartRx_ready (engine : CrcEngine) (ready : start.Ready) :
    uartRx engine resources start update = uartFwupSend engine resources start update :=
  if_pos ready.1

theorem uartRx_idle (engine : CrcEngine) (idle : ¬start.Ready) :
    uartRx engine resources start update = ⟨start, update, []⟩ := by
  unfold uartRx
  split
  · rename_i mode
    rw [uartFwupSend, cnt_eq_count, if_neg fun enough => idle ⟨mode, enough⟩]
  · rfl

theorem uartFwupSend_expected (engine : CrcEngine) (enough : uartUpfwDataSize ≤ start.recv.count)
    (waits : update.receivedNumber = (count : Int) - 1) (heard : Heard resources update)
    (expected : start.block.numbered = some count) :
    Applies (uartFwupSend engine resources start update) start.block.payload count
      (decide resources.response.All) := by
  obtain ⟨session, memory⟩ := heard
  obtain ⟨cells, allocated⟩ := Option.isSome_iff_exists.mp memory
  have same := copyBlock_same cells enough
  unfold uartFwupSend
  rw [cnt_eq_count, if_pos enough, allocated]
  dsimp only
  rw [if_pos session, ← same.payload]
  exact applyBlock_expected engine waits (same.numbered.trans expected)

theorem uartFwupSend_other (engine : CrcEngine) (enough : uartUpfwDataSize ≤ start.recv.count)
    (waits : update.receivedNumber = (count : Int) - 1)
    (other : Heard resources update → start.block.numbered ≠ some count) :
    Refuses (uartFwupSend engine resources start update) (count - 1) := by
  unfold uartFwupSend
  rw [cnt_eq_count, if_pos enough]
  cases allocated : resources.block with
  | none => exact ⟨rfl, rfl, waits⟩
  | some cells =>
      dsimp only
      by_cases session : update.tlsFwupGetCurrentSessionId ≠ 0
      · have same := copyBlock_same cells enough
        have memory : resources.block.isSome = true := by rw [allocated]; rfl
        rw [if_pos session]
        exact applyBlock_other engine waits
          fun expected => other ⟨session, memory⟩ (same.numbered.symm.trans expected)
      · rw [if_neg session]
        exact ⟨rfl, rfl, waits⟩

end

section

variable {served : List Served} {one : Served}

theorem applied_heard (heard : Heard one.resources one.update) :
    applied (served ++ [one]) =
      if one.block.numbered = some (applied served).length then applied served ++ [one.block]
      else applied served := by
  have blocks : heardBlocks (served ++ [one]) = heardBlocks served ++ [one.block] := by
    simp [heardBlocks, heard]
  unfold applied
  rw [blocks, Numbered.taken_snoc, Nat.zero_add]

theorem applied_unheard (unheard : ¬Heard one.resources one.update) :
    applied (served ++ [one]) = applied served := by
  have blocks : heardBlocks (served ++ [one]) = heardBlocks served := by
    simp [heardBlocks, unheard]
  rw [applied, blocks, applied]

theorem applied_numbers (served : List Served) : (applied served).map FwupBlock.numbered =
    (List.range (applied served).length).map some := by
  rw [applied, Numbered.taken_numbers, List.range_eq_range']

/-- The law goes on when the block is applied, and when it is not. -/
theorem AppliedInOrder.snoc {answerable : Served → Prop} (law : AppliedInOrder answerable served)
    (block : applied (served ++ [one]) = applied served ∧ one.passed = [] ∨
      applied (served ++ [one]) = applied served ++ [one.block] ∧
        one.passed = [one.block.payload])
    (answered : one.positive = true ↔ one.passed ≠ [] ∧ answerable one)
    (consumed : uartUpfwDataSize ≤ one.before.recv.contents.length ∧
      one.sent.uart.recv.contents = one.before.recv.contents.drop uartUpfwDataSize) :
    AppliedInOrder answerable (served ++ [one]) where
  passed := by
    rw [List.flatMap_append, List.flatMap_singleton, law.passed]
    rcases block with ⟨same, none⟩ | ⟨more, own⟩
    · rw [same, none, List.append_nil]
    · rw [more, own, List.map_append, List.map_singleton]
  order := Numbered.taken_sublist ..
  numbers := applied_numbers _
  own := by
    rw [List.forall_mem_append, List.forall_mem_singleton]
    exact ⟨law.own, block.imp And.right And.right⟩
  answered := by
    rw [List.forall_mem_append, List.forall_mem_singleton]
    exact ⟨law.answered, answered⟩
  consumed := by
    rw [List.forall_mem_append, List.forall_mem_singleton]
    exact ⟨law.consumed, consumed⟩

end

structure UploadInvariant (state : UploadState) : Prop where
  law : AppliedInOrder (fun one => one.resources.response.All) state.served
  waits : state.update.receivedNumber = ((applied state.served).length : Int) - 1

theorem step_served {state : UploadState} (engine : CrcEngine) (resources : BlockResources)
    (ready : state.uart.Ready) :
    (state.step engine (.rx resources)).served = state.served ++ [⟨state.uart, state.update,
      resources, uartFwupSend engine resources state.uart state.update⟩] := by
  rw [← uartRx_ready engine ready]
  exact if_pos ready

theorem uploadInvariant_rx {state : UploadState} (engine : CrcEngine) (resources : BlockResources)
    (invariant : UploadInvariant state) : UploadInvariant (state.step engine (.rx resources)) := by
  obtain ⟨law, waits⟩ := invariant
  unfold UploadState.step
  dsimp only
  by_cases ready : state.uart.Ready
  · have enough := ready.2
    have consumed : uartUpfwDataSize ≤ state.uart.recv.contents.length ∧
        (uartFwupSend engine resources state.uart state.update).uart.recv.contents =
          state.uart.recv.contents.drop uartUpfwDataSize := by
      rw [uartFwupSend_recv engine enough, Ring.contents_drop _ enough, Ring.contents_length]
      exact ⟨enough, rfl⟩
    rw [uartRx_ready engine ready, if_pos ready]
    by_cases next : Heard resources state.update ∧
        state.uart.block.numbered = some (applied state.served).length
    · obtain ⟨heard, expected⟩ := next
      obtain ⟨passed, positive, number⟩ :=
        uartFwupSend_expected engine enough waits heard expected
      generalize uartFwupSend engine resources state.uart state.update = sent at *
      have more := (@applied_heard state.served ⟨state.uart, state.update, resources, sent⟩
        heard).trans (if_pos expected)
      refine ⟨law.snoc (Or.inr ⟨more, passed⟩) ?_ consumed, ?_⟩
      · simp [Served.positive, Served.passed, positive, passed]
      · rw [number, more, List.length_append, List.length_singleton]
        omega
    · obtain ⟨passed, positive, number⟩ :=
        uartFwupSend_other engine enough waits fun heard expected => next ⟨heard, expected⟩
      generalize uartFwupSend engine resources state.uart state.update = sent at *
      have same : applied (state.served ++ [⟨state.uart, state.update, resources, sent⟩]) =
          applied state.served := by
        by_cases heard : Heard resources state.update
        · exact (applied_heard heard).trans (if_neg fun expected => next ⟨heard, expected⟩)
        · exact applied_unheard heard
      refine ⟨law.snoc (Or.inl ⟨same, passed⟩) ?_ consumed, ?_⟩
      · simp [Served.positive, Served.passed, positive, passed]
      · rw [number, same]
  · rw [uartRx_idle engine ready, if_neg ready]
    exact ⟨law, waits⟩

theorem uploadInvariant_run (engine : CrcEngine) (ops : List UploadOp) {state : UploadState}
    (invariant : UploadInvariant state) : UploadInvariant (ops.foldl (UploadState.step engine) state) := by
  induction ops generalizing state with
  | nil => exact invariant
  | cons op rest ih =>
      cases op with
      | rx resources => exact ih (uploadInvariant_rx engine resources invariant)
      | other uart system => exact ih ⟨invariant.law, invariant.waits⟩

def UploadState.entered (uart : TlsUart) (system : FwupSystem) : UploadState :=
  ⟨uart, ⟨system, -1⟩, []⟩

theorem uploadInvariant_entered (uart : TlsUart) (system : FwupSystem) :
    UploadInvariant (.entered uart system) := by
  constructor
  · constructor
    · rfl
    · exact Numbered.taken_sublist ..
    · rfl
    all_goals simp [UploadState.entered]
  · rfl

/-- For any blocks, in any order and at any place in the ring: `0`, `1`, `2` and so on are applied,
each once, and answered when the response can be sent. -/
theorem blocks_applied_in_order (engine : CrcEngine) (uart : TlsUart) (system : FwupSystem)
    (ops : List UploadOp) :
    AppliedInOrder (fun one => one.resources.response.All)
      (ops.foldl (UploadState.step engine) (.entered uart system)).served :=
  (uploadInvariant_run engine ops (uploadInvariant_entered uart system)).law

def zeroBlock : FwupBlock := fun index =>
  if 516 ≤ index ∧ index < 520 then byteOf (getCrc32 (fun _ => 0) 516).toNat (index - 516) else 0

theorem zeroBlock_numbered : zeroBlock.numbered = some 0 := by
  have sum : getCrc32 zeroBlock 516 = getCrc32 (fun _ => 0) 516 :=
    getCrc32_congr fun index inside => if_neg (by omega)
  have stored : zeroBlock.crc32 = getCrc32 (fun _ => 0) 516 := by
    refine wordAt_byteOf _ fun index inside => ?_
    rw [zeroBlock, if_pos (by omega), Nat.add_sub_cancel_left]
  exact numbered_eq_some.mpr ⟨sum.trans stored.symm, rfl⟩

theorem ring_not_empty : 0 < tlsUartRxBufSize := by decide

theorem ring_holds_block : 528 < tlsUartRxBufSize := by decide

def zeroUart : TlsUart where
  uartNo := 1
  recv := ⟨zeroBlock, 528, 0, ring_holds_block, ring_not_empty⟩
  cmdMode := .atdata

def openSession : FwupSystem := ⟨some (.cleared true 1), fun _ => 0, 0, ⟨0x14, fun _ => 0, fun _ => 0xFF, none, 0⟩⟩

def noResponse : BlockResources :=
  ⟨some fun _ => 0, ⟨false, true, true, true⟩, ⟨true, true, none⟩⟩

theorem zeroUart_count : zeroUart.recv.count = uartUpfwDataSize := rfl

theorem zeroUart_block : SameBlock zeroUart.block zeroBlock := by
  intro index inside
  have unread : index < zeroUart.recv.count := zeroUart_count ▸ inside
  have place : (0 + index) % tlsUartRxBufSize = index := by
    rw [Nat.zero_add]
    exact Nat.mod_eq_of_lt (Nat.lt_trans inside ring_holds_block)
  rw [TlsUart.block, List.getD_eq_getElem?_getD, Ring.getElem?_contents _ unread, Option.getD_some]
  exact congrArg zeroBlock place

theorem noResponse_not_applied :
    ¬∀ (engine : CrcEngine) (uart : TlsUart) (system : FwupSystem) (ops : List UploadOp),
      AppliedInOrder (fun _ => True)
        (ops.foldl (UploadState.step engine) (.entered uart system)).served := by
  intro claimed
  have law := claimed (fun key _ => key) zeroUart openSession [.rx noResponse]
  have heard : Heard noResponse ⟨openSession, -1⟩ := ⟨by decide, rfl⟩
  have enough : uartUpfwDataSize ≤ zeroUart.recv.count := Nat.le_of_eq zeroUart_count.symm
  obtain ⟨passed, positive, -⟩ := @uartFwupSend_expected noResponse zeroUart ⟨openSession, -1⟩ 0
    (fun key _ => key) enough rfl heard
    (zeroUart_block.numbered.trans zeroBlock_numbered)
  rw [List.foldl_cons, List.foldl_nil,
    @step_served (.entered zeroUart openSession) (fun key _ => key) noResponse ⟨rfl, enough⟩] at law
  have answered := (law.answered _ (List.mem_singleton_self _)).mpr
    ⟨ne_of_eq_of_ne passed (List.cons_ne_nil _ _), trivial⟩
  cases positive.symm.trans answered

end SmartMeter
