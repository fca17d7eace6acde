import SmartMeter.Platform.UartCore

/-!
Forwarding received bytes to the default socket: `uart_net_send` and the branches of `uart_rx`
for the transparent mode and for the payload of a send command, over any results of
`tls_hostif_send_data`.
-/

namespace SmartMeter

open RingBuffer

def uartNetSendDataSize : Nat := 512

inductive SendResult
  | ok | errMem | errVal
deriving DecidableEq

inductive FlowCtrl
  | none | hardware
deriving DecidableEq

inductive UartMode
  | atcmd | ricmd | trans | atdata | atsnd
deriving DecidableEq

structure NetUart where
  recv : TlsUartCircBuf
  fcStatus : FlowCtrl
  flowCtrl : FlowCtrl
  rxEnabled : Bool
  cmdMode : UartMode
  rxIdle : Bool
  sksndCnt : Nat
  tcptimedelayflag : Bool
  timer2 : Bool
  defaultSocket : UInt8

namespace NetUart

def hardwareFlow (uart : NetUart) : Bool :=
  uart.fcStatus == .hardware && uart.flowCtrl == .hardware

def setUartRxStatus (uart : NetUart) (enable : Bool) : NetUart :=
  if enable then { uart with rxEnabled := true }
  else if uart.hardwareFlow then { uart with rxEnabled := false }
  else uart

end NetUart

/-- What becomes of a chunk; one whose sending is retried without an end so far is pending. -/
inductive ChunkFate
  | accepted | dropped | refused | pending
deriving DecidableEq

def sendChunk (hardware : Bool) : List SendResult → ChunkFate × List SendResult
  | [] => (.pending, [])
  | .ok :: rest => (.accepted, rest)
  | .errVal :: rest => (.refused, rest)
  | .errMem :: rest => if hardware then sendChunk hardware rest else (.dropped, rest)

/-- The buffer `uart_net_send_data`, copied in two parts at the end of the ring. -/
def uartNetSendData (recv : TlsUartCircBuf) (tail buflen : Nat) : List UInt8 :=
  if tail + buflen > tlsUartRxBufSize then
    let bufcopylen := tlsUartRxBufSize - tail
    Buffer.toList (fun index => recv.cells (tail + index)) bufcopylen ++
      Buffer.toList recv.cells (buflen - bufcopylen)
  else Buffer.toList (fun index => recv.cells (tail + index)) buflen

structure NetCall where
  uart : NetUart
  chunks : List (ChunkFate × List UInt8)
  returned : Bool

namespace NetCall

def bytes (call : NetCall) (wanted : ChunkFate → Bool) : List UInt8 :=
  (call.chunks.filter fun chunk => wanted chunk.1).flatMap Prod.snd

def accepted (call : NetCall) : List UInt8 := call.bytes (· == .accepted)

def settled (call : NetCall) : List UInt8 :=
  call.bytes fun fate => fate == .accepted || fate == .dropped

def Has (call : NetCall) (fate : ChunkFate) : Prop := ∃ chunk ∈ call.chunks, chunk.1 = fate

end NetCall

namespace NetUart

/-- The end of `uart_net_send`, with `count` bytes left over. -/
def afterSend (uart : NetUart) (count : Nat) : NetUart :=
  let uart :=
    if count ≠ 0 ∧ uart.tcptimedelayflag = false then
      { uart with timer2 := true, tcptimedelayflag := true }
    else uart
  if uart.hardwareFlow then
    if uart.recv.space > tlsUartRxBufSize / 2 then uart.setUartRxStatus true
    else { uart with timer2 := true }
  else uart

def resendbuf (uart : NetUart) (tail count : Nat) (results : List SendResult) : NetCall :=
  let buflen := if count ≥ uartNetSendDataSize then uartNetSendDataSize else count
  let left := if count ≥ uartNetSendDataSize then count - uartNetSendDataSize else 0
  let data := uartNetSendData uart.recv tail buflen
  let (fate, rest) :=
    if uart.defaultSocket ≠ 0 then sendChunk uart.hardwareFlow results else (.dropped, results)
  match fate with
  | .pending => ⟨uart, [(.pending, data)], false⟩
  | .refused => ⟨{ uart.setUartRxStatus false with timer2 := true }, [(.refused, data)], true⟩
  | fate =>
      let uart := { uart with recv := uart.recv.drop buflen }
      if left ≥ uartNetSendDataSize ∧ buflen ≠ left then
        let call := resendbuf uart uart.recv.tail left rest
        { call with chunks := (fate, data) :: call.chunks }
      else ⟨uart.afterSend left, [(fate, data)], true⟩
termination_by count
decreasing_by
  have size : uartNetSendDataSize = 512 := rfl
  grind

def uartNetSend (uart : NetUart) (tail count : Nat) (results : List SendResult) : NetCall :=
  resendbuf { uart with rxIdle := false } tail count results

/-- The other modes do not forward; `commands` is what they do. -/
def uartRx (commands : NetUart → NetUart) (uart : NetUart) (results : List SendResult) :
    NetCall :=
  let dataCnt := uart.recv.cnt
  match uart.cmdMode with
  | .trans =>
      if uart.rxIdle ∧ dataCnt ≠ 0 then
        uartNetSend { uart with tcptimedelayflag := false } uart.recv.tail dataCnt results
      else if dataCnt ≥ uartNetSendDataSize then
        uartNetSend { uart with tcptimedelayflag := false, timer2 := false } uart.recv.tail dataCnt
          results
      else if uart.tcptimedelayflag = false ∧ dataCnt ≠ 0 then
        ⟨{ uart with timer2 := true, tcptimedelayflag := true }, [], true⟩
      else ⟨uart, [], true⟩
  | .atsnd =>
      if dataCnt ≥ uart.sksndCnt then
        let call := uartNetSend uart uart.recv.tail uart.sksndCnt results
        if call.returned then { call with uart := { call.uart with cmdMode := .atcmd } } else call
      else ⟨uart, [], true⟩
  | _ => ⟨commands uart, [], true⟩

end NetUart

@[simp] theorem NetCall.settled_settle (call : NetCall) {fate : ChunkFate} (data : List UInt8)
    (settles : fate = .accepted ∨ fate = .dropped) :
    ({ call with chunks := (fate, data) :: call.chunks } : NetCall).settled =
      data ++ call.settled := by
  rcases settles with rfl | rfl <;> rfl

theorem NetCall.accepted_eq_settled {call : NetCall} (kept : ¬call.Has .dropped) :
    call.accepted = call.settled := by
  have same : ∀ chunk ∈ call.chunks,
      (chunk.1 == ChunkFate.accepted) = (chunk.1 == .accepted || chunk.1 == .dropped) := by
    intro chunk member
    have notDropped : chunk.1 ≠ .dropped := fun dropped => kept ⟨chunk, member, dropped⟩
    simp [notDropped]
  rw [accepted, settled, bytes, bytes, List.filter_congr same]

/-- Both parts of the copy are the unread bytes from the tail on. -/
theorem uartNetSendData_eq (recv : TlsUartCircBuf) {buflen : Nat} (inside : buflen ≤ recv.count) :
    uartNetSendData recv recv.tail buflen = recv.contents.take buflen := by
  have size : tlsUartRxBufSize = 4096 := rfl
  have tailBound := recv.tail_lt
  have countBound := recv.count_lt
  apply List.ext_getElem?
  intro index
  have unread : (recv.contents.take buflen)[index]? =
      if index < buflen then some (recv.ahead index) else none := by
    rw [List.getElem?_take]
    split
    · exact recv.getElem?_contents (by omega)
    · rfl
  rw [unread, uartNetSendData, Ring.ahead]
  split
  · rw [List.getElem?_append, Buffer.toList_length]
    by_cases first : index < tlsUartRxBufSize - recv.tail
    · rw [if_pos first, if_pos (by omega), Nat.mod_eq_of_lt (by omega)]
      simp [Buffer.toList, first]
    · rw [if_neg first]
      by_cases second : index < buflen
      · rw [if_pos second, Nat.mod_eq_sub_mod (by omega), Nat.mod_eq_of_lt (by omega)]
        have place : index - (tlsUartRxBufSize - recv.tail) =
            recv.tail + index - tlsUartRxBufSize := by omega
        simp only [Buffer.toList, place]
        rw [List.getElem?_map, List.getElem?_range (by omega)]
        rfl
      · rw [if_neg second]
        exact List.getElem?_eq_none (by rw [Buffer.toList_length]; omega)
  · by_cases within : index < buflen
    · rw [if_pos within, Nat.mod_eq_of_lt (by omega)]
      simp [Buffer.toList, within]
    · rw [if_neg within]
      exact List.getElem?_eq_none (by rw [Buffer.toList_length]; omega)

theorem sendChunk_rest (hardware : Bool) (results : List SendResult) :
    (sendChunk hardware results).2 ⊆ results := by
  induction results with
  | nil => exact List.Subset.refl _
  | cons result rest ih =>
      cases result with
      | ok => exact List.subset_cons_self _ _
      | errVal => exact List.subset_cons_self _ _
      | errMem =>
          cases hardware with
          | true => exact List.Subset.trans ih (List.subset_cons_self _ _)
          | false => exact List.subset_cons_self _ _

/-- Nothing is given up but a chunk for which there is no memory, without flow control. -/
theorem sendChunk_dropped {hardware : Bool} {results : List SendResult}
    (dropped : (sendChunk hardware results).1 = .dropped) :
    hardware = false ∧ SendResult.errMem ∈ results := by
  induction results with
  | nil => cases dropped
  | cons result rest ih =>
      cases result with
      | ok => cases dropped
      | errVal => cases dropped
      | errMem =>
          cases hardware with
          | true => exact ⟨(ih dropped).1, List.mem_cons_of_mem _ (ih dropped).2⟩
          | false => exact ⟨rfl, List.mem_cons_self⟩

/-- What a call that is to send `count` unread bytes does to the ring and to the mode. -/
structure Sends (uart : NetUart) (count : Nat) (results : List SendResult) (call : NetCall) :
    Prop where
  inOrder : call.settled <+: uart.recv.contents
  ring : call.uart.recv = uart.recv.drop call.settled.length
  drops : call.Has .dropped →
    uart.defaultSocket = 0 ∨ (uart.hardwareFlow = false ∧ .errMem ∈ results)
  mode : call.uart.cmdMode = uart.cmdMode
  complete : count ≤ uartNetSendDataSize → call.returned = true → ¬call.Has .refused →
    call.settled.length = count

@[simp] theorem NetUart.recv_setUartRxStatus (uart : NetUart) (enable : Bool) :
    (uart.setUartRxStatus enable).recv = uart.recv := by
  unfold NetUart.setUartRxStatus
  split
  · rfl
  · split <;> rfl

@[simp] theorem NetUart.cmdMode_setUartRxStatus (uart : NetUart) (enable : Bool) :
    (uart.setUartRxStatus enable).cmdMode = uart.cmdMode := by
  unfold NetUart.setUartRxStatus
  split
  · rfl
  · split <;> rfl

theorem NetUart.afterSend_frame (uart : NetUart) (count : Nat) :
    (uart.afterSend count).recv = uart.recv ∧ (uart.afterSend count).cmdMode = uart.cmdMode := by
  unfold NetUart.afterSend
  grind [NetUart.recv_setUartRxStatus, NetUart.cmdMode_setUartRxStatus]

/-- A chunk that is neither taken nor given up leaves everything in the ring. -/
theorem Sends.kept {uart after : NetUart} {count : Nat} {results : List SendResult}
    {fate : ChunkFate} {data : List UInt8} {returned : Bool} (recv : after.recv = uart.recv)
    (mode : after.cmdMode = uart.cmdMode)
    (waits : (fate = .refused ∧ returned = true) ∨ (fate = .pending ∧ returned = false)) :
    Sends uart count results ⟨after, [(fate, data)], returned⟩ := by
  have nothing : (⟨after, [(fate, data)], returned⟩ : NetCall).settled = [] := by
    rcases waits with ⟨rfl, -⟩ | ⟨rfl, -⟩ <;> rfl
  refine ⟨?_, ?_, ?_, mode, ?_⟩
  · rw [nothing]
    exact List.nil_prefix
  · rw [nothing]
    exact recv.trans uart.recv.drop_zero.symm
  · rintro ⟨chunk, member, dropped⟩
    rw [List.mem_singleton.mp member] at dropped
    rcases waits with ⟨rfl, -⟩ | ⟨rfl, -⟩ <;> cases dropped
  · intro _ finished accepted
    rcases waits with ⟨rfl, -⟩ | ⟨-, still⟩
    · exact absurd ⟨_, List.mem_singleton_self _, rfl⟩ accepted
    · exact absurd (finished.symm.trans still) (by decide)

/-- A settled chunk in front of a call on the bytes behind it. -/
theorem Sends.settle {uart : NetUart} {count buflen left : Nat} {results rest : List SendResult}
    {fate : ChunkFate} {call : NetCall} (settles : fate = .accepted ∨ fate = .dropped)
    (inside : buflen ≤ uart.recv.count) (more : uartNetSendDataSize < count)
    (subset : rest ⊆ results)
    (drops : fate = .dropped →
      uart.defaultSocket = 0 ∨ (uart.hardwareFlow = false ∧ .errMem ∈ results))
    (further : Sends { uart with recv := uart.recv.drop buflen } left rest call) :
    Sends uart count results
      { call with chunks := (fate, uart.recv.contents.take buflen) :: call.chunks } := by
  have length : (uart.recv.contents.take buflen).length = buflen := by
    rw [List.length_take, Ring.contents_length, Nat.min_eq_left inside]
  refine ⟨?_, ?_, ?_, further.mode, fun small => absurd small (by omega)⟩
  · have behind := further.inOrder
    rw [Ring.contents_drop _ inside] at behind
    rw [NetCall.settled_settle call _ settles]
    conv => rhs; rw [← List.take_append_drop buflen uart.recv.contents]
    exact (List.prefix_append_right_inj _).mpr behind
  · rw [NetCall.settled_settle call _ settles, List.length_append, length]
    exact further.ring.trans (uart.recv.drop_drop _ _)
  · rintro ⟨chunk, member, dropped⟩
    rcases List.mem_cons.mp member with rfl | later
    · exact drops dropped
    · rcases further.drops ⟨chunk, later, dropped⟩ with noSocket | ⟨noFlow, refusal⟩
      · exact Or.inl noSocket
      · exact Or.inr ⟨noFlow, subset refusal⟩

theorem Sends.last {uart : NetUart} {count buflen left : Nat} {results : List SendResult}
    {fate : ChunkFate} (settles : fate = .accepted ∨ fate = .dropped)
    (inside : buflen ≤ uart.recv.count)
    (whole : count ≤ uartNetSendDataSize → buflen = count)
    (drops : fate = .dropped →
      uart.defaultSocket = 0 ∨ (uart.hardwareFlow = false ∧ .errMem ∈ results)) :
    Sends uart count results
      ⟨NetUart.afterSend { uart with recv := uart.recv.drop buflen } left,
        [(fate, uart.recv.contents.take buflen)], true⟩ := by
  have frame := NetUart.afterSend_frame { uart with recv := uart.recv.drop buflen } left
  have bytes : (⟨NetUart.afterSend { uart with recv := uart.recv.drop buflen } left,
      [(fate, uart.recv.contents.take buflen)], true⟩ : NetCall).settled =
        uart.recv.contents.take buflen := by
    rcases settles with rfl | rfl <;> exact List.append_nil _
  have length : (uart.recv.contents.take buflen).length = buflen := by
    rw [List.length_take, Ring.contents_length, Nat.min_eq_left inside]
  refine ⟨?_, ?_, ?_, frame.2, ?_⟩
  · rw [bytes]
    exact List.take_prefix _ _
  · rw [bytes, length]
    exact frame.1
  · rintro ⟨chunk, member, dropped⟩
    rw [List.mem_singleton.mp member] at dropped
    exact drops dropped
  · intro small _ _
    rw [bytes, length]
    exact whole small

theorem NetUart.resendbuf_sends (uart : NetUart) (count : Nat) (results : List SendResult)
    (inside : count ≤ uart.recv.count) :
    Sends uart count results (uart.resendbuf uart.recv.tail count results) := by
  have size : uartNetSendDataSize = 512 := rfl
  induction count using Nat.strongRecOn generalizing uart results with
  | ind count ih =>
      rw [NetUart.resendbuf]
      generalize buflenIs : (if count ≥ uartNetSendDataSize then uartNetSendDataSize else count) =
        buflen
      generalize leftIs : (if count ≥ uartNetSendDataSize then count - uartNetSendDataSize else 0) =
        left
      have parts : buflen + left = count := by grind
      have fits : buflen ≤ uart.recv.count := by omega
      have subset : (if uart.defaultSocket ≠ 0 then sendChunk uart.hardwareFlow results
          else (.dropped, results)).2 ⊆ results := by
        split
        · exact sendChunk_rest _ _
        · exact List.Subset.refl _
      have drops : (if uart.defaultSocket ≠ 0 then sendChunk uart.hardwareFlow results
          else (.dropped, results)).1 = .dropped →
          uart.defaultSocket = 0 ∨ (uart.hardwareFlow = false ∧ .errMem ∈ results) := by
        intro dropped
        by_cases socket : uart.defaultSocket = 0
        · exact Or.inl socket
        · rw [if_pos socket] at dropped
          exact Or.inr (sendChunk_dropped dropped)
      generalize (if uart.defaultSocket ≠ 0 then sendChunk uart.hardwareFlow results
        else (.dropped, results)) = outcome at subset drops
      rcases outcome with ⟨fate, rest⟩
      simp only [uartNetSendData_eq uart.recv fits]
      have settled (settles : fate = .accepted ∨ fate = .dropped) :
          Sends uart count results
            (if left ≥ uartNetSendDataSize ∧ buflen ≠ left then
              { NetUart.resendbuf { uart with recv := uart.recv.drop buflen }
                  (uart.recv.drop buflen).tail left rest with
                chunks := (fate, uart.recv.contents.take buflen) ::
                  (NetUart.resendbuf { uart with recv := uart.recv.drop buflen }
                    (uart.recv.drop buflen).tail left rest).chunks }
            else ⟨NetUart.afterSend { uart with recv := uart.recv.drop buflen } left,
              [(fate, uart.recv.contents.take buflen)], true⟩) := by
        split
        · have behind := ih left (by grind) { uart with recv := uart.recv.drop buflen } rest
            (by rw [uart.recv.count_drop fits]; omega)
          exact Sends.settle settles fits (by grind) subset drops behind
        · exact Sends.last settles fits (by grind) drops
      cases fate with
      | pending => exact Sends.kept rfl rfl (Or.inr ⟨rfl, rfl⟩)
      | refused =>
          exact Sends.kept (uart.recv_setUartRxStatus false) (uart.cmdMode_setUartRxStatus false)
            (Or.inl ⟨rfl, rfl⟩)
      | accepted => exact settled (Or.inl rfl)
      | dropped => exact settled (Or.inr rfl)

/-- The modes in which received bytes go to the socket; a send command has bounded its size. -/
def NetUart.Forwarding (uart : NetUart) : Prop :=
  uart.cmdMode = .trans ∨ (uart.cmdMode = .atsnd ∧ uart.sksndCnt ≤ uartNetSendDataSize)

/-- Everything unread goes to the socket or stays, and payload is never read as a command. -/
structure LosesNothing (uart : NetUart) (call : NetCall) : Prop where
  inOrder : call.accepted <+: uart.recv.contents
  ring : call.uart.recv = uart.recv.drop call.accepted.length
  mode : uart.cmdMode = .atsnd → call.uart.cmdMode = .atcmd →
    call.accepted.length = uart.sksndCnt

/-- Everything unread goes to the socket, is given up or stays. Giving up takes the absence of a
socket, or of memory and of flow control; a payload behind `ERR_VAL` is not spoken of. -/
structure LosesGivenUp (uart : NetUart) (results : List SendResult) (call : NetCall) : Prop where
  inOrder : call.settled <+: uart.recv.contents
  ring : call.uart.recv = uart.recv.drop call.settled.length
  drops : call.Has .dropped →
    uart.defaultSocket = 0 ∨ (uart.hardwareFlow = false ∧ .errMem ∈ results)
  lossless : ¬call.Has .dropped →
    call.accepted <+: uart.recv.contents ∧ call.uart.recv = uart.recv.drop call.accepted.length
  trans : uart.cmdMode = .trans → call.uart.cmdMode = .trans
  mode : uart.cmdMode = .atsnd → call.uart.cmdMode = .atcmd → ¬call.Has .refused →
    call.settled.length = uart.sksndCnt

theorem LosesGivenUp.of_settled {uart : NetUart} {results : List SendResult} {call : NetCall}
    (inOrder : call.settled <+: uart.recv.contents)
    (ring : call.uart.recv = uart.recv.drop call.settled.length)
    (drops : call.Has .dropped →
      uart.defaultSocket = 0 ∨ (uart.hardwareFlow = false ∧ .errMem ∈ results))
    (trans : uart.cmdMode = .trans → call.uart.cmdMode = .trans)
    (mode : uart.cmdMode = .atsnd → call.uart.cmdMode = .atcmd → ¬call.Has .refused →
      call.settled.length = uart.sksndCnt) : LosesGivenUp uart results call := by
  refine ⟨inOrder, ring, drops, fun kept => ?_, trans, mode⟩
  rw [NetCall.accepted_eq_settled kept]
  exact ⟨inOrder, ring⟩

theorem LosesGivenUp.idle {uart after : NetUart} {results : List SendResult}
    (recv : after.recv = uart.recv) (mode : after.cmdMode = uart.cmdMode) :
    LosesGivenUp uart results ⟨after, [], true⟩ := by
  apply LosesGivenUp.of_settled
  · exact List.nil_prefix
  · exact recv.trans uart.recv.drop_zero.symm
  · rintro ⟨chunk, member, -⟩
    cases member
  · exact mode.trans
  · intro sending changed
    exact absurd (changed.symm.trans (mode.trans sending)) (by decide)

theorem NetUart.uartRx_losesGivenUp (commands : NetUart → NetUart) (uart : NetUart)
    (results : List SendResult) (forwarding : uart.Forwarding) :
    LosesGivenUp uart results (uart.uartRx commands results) := by
  have sends (delayFlag timer2 : Bool) (count : Nat) (inside : count ≤ uart.recv.count) :
      Sends uart count results (NetUart.uartNetSend { uart with
        tcptimedelayflag := delayFlag, timer2 := timer2 } uart.recv.tail count results) :=
    have run := NetUart.resendbuf_sends { uart with
      tcptimedelayflag := delayFlag, timer2 := timer2, rxIdle := false } count results inside
    ⟨run.inOrder, run.ring, run.drops, run.mode, run.complete⟩
  unfold NetUart.uartRx
  rcases forwarding with trans | ⟨sending, small⟩
  · have forwards (timer2 : Bool) : LosesGivenUp uart results (NetUart.uartNetSend { uart with
        tcptimedelayflag := false, timer2 := timer2 } uart.recv.tail uart.recv.cnt results) := by
      have run := sends false timer2 uart.recv.cnt (Nat.le_of_eq (cnt_eq_count uart.recv))
      exact LosesGivenUp.of_settled run.inOrder run.ring run.drops run.mode.trans
        fun sending => absurd (trans.symm.trans sending) (by decide)
    simp only [trans]
    split
    · have same : (⟨uart.recv, uart.fcStatus, uart.flowCtrl, uart.rxEnabled, uart.cmdMode,
          uart.rxIdle, uart.sksndCnt, false, uart.timer2, uart.defaultSocket⟩ : NetUart) =
          { uart with tcptimedelayflag := false, timer2 := uart.timer2 } := rfl
      simpa only [trans, same] using forwards uart.timer2
    · split
      · simpa only [trans] using forwards false
      · split
        · exact LosesGivenUp.idle rfl trans.symm
        · exact LosesGivenUp.idle rfl rfl
  · simp only [sending]
    split
    · rename_i enough
      have run := sends uart.tcptimedelayflag uart.timer2 uart.sksndCnt
        (by rw [cnt_eq_count] at enough; exact enough)
      split
      · rename_i returned
        exact LosesGivenUp.of_settled run.inOrder run.ring run.drops
          (fun trans => absurd (sending.symm.trans trans) (by decide))
          (fun _ _ => run.complete small returned)
      · have stays : (uart.uartNetSend uart.recv.tail uart.sksndCnt results).uart.cmdMode =
            .atsnd := run.mode.trans sending
        exact LosesGivenUp.of_settled run.inOrder run.ring run.drops
          (fun trans => absurd (sending.symm.trans trans) (by decide))
          (fun _ changed => absurd (stays.symm.trans changed) (by decide))
    · exact LosesGivenUp.idle rfl rfl

theorem byte_inside : 1 < tlsUartRxBufSize := by decide

theorem ring_inhabited : 0 < tlsUartRxBufSize := by decide

def oneByteUart : NetUart where
  recv := ⟨fun _ => 65, 1, 0, byte_inside, ring_inhabited⟩
  fcStatus := .none
  flowCtrl := .none
  rxEnabled := true
  cmdMode := .trans
  rxIdle := true
  sksndCnt := 0
  tcptimedelayflag := false
  timer2 := false
  defaultSocket := 1

theorem NetUart.uartRx_losesGivenUp_oneByte :
    LosesGivenUp oneByteUart [.errMem] (oneByteUart.uartRx id [.errMem]) :=
  NetUart.uartRx_losesGivenUp id oneByteUart [.errMem] (Or.inl rfl)

/-- The byte for which the socket has no memory is gone. -/
theorem NetUart.uartRx_not_losesNothing :
    ¬LosesNothing oneByteUart (oneByteUart.uartRx id [.errMem]) := by
  intro lossless
  have gone : (oneByteUart.uartRx id [.errMem]).chunks = [(.dropped, [65])] ∧
      (oneByteUart.uartRx id [.errMem]).uart.recv.tail = 1 := by
    have sending : oneByteUart.uartRx id [.errMem] =
        resendbuf { oneByteUart with rxIdle := false } 0 1 [.errMem] := rfl
    rw [sending, resendbuf]
    exact ⟨rfl, rfl⟩
  have nothing : (oneByteUart.uartRx id [.errMem]).accepted = [] := by
    rw [NetCall.accepted, NetCall.bytes, gone.1]
    rfl
  have moved := congrArg Ring.tail lossless.ring
  rw [gone.2, nothing] at moved
  exact absurd moved (by decide)

end SmartMeter
