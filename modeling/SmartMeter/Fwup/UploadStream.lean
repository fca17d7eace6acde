import SmartMeter.Fwup.SocketFwup
import Mathlib.Data.List.Basic

/-!
An upload packet by packet, and what cutting the byte stream into pbufs does to it: a pbuf that
ends inside the data of a packet is harmless, one that ends inside a header is not.
-/

namespace SmartMeter

structure FwupPacket where
  operation : UInt8
  data : List UInt8
  bound : data.length ≤ 2048

namespace FwupPacket

def encode (packet : FwupPacket) : List UInt8 :=
  packet.operation :: UInt8.ofNat (packet.data.length / 256) ::
    UInt8.ofNat packet.data.length :: packet.data

def encodeAll (packets : List FwupPacket) : List UInt8 := packets.flatMap encode

theorem encode_length (packet : FwupPacket) :
    packet.encode.length = packet.data.length + 3 := rfl

end FwupPacket

open FwupPacket

section Upload

variable (host : SocketFwupHost)

def enterSession (sessionId : UInt32) (calls : List SocketFwupCall) (packet : FwupPacket) :
    UInt32 × List SocketFwupCall :=
  if packet.operation = socketFwupStart then (host.enter (calls ++ [.enter]), calls ++ [.enter])
  else (sessionId, calls)

/-- The calls of an upload whose packets come whole. An `END` without data is carried out when
more bytes come, and nothing is received behind an `END`. -/
def uploadCalls : UInt32 → List SocketFwupCall → List FwupPacket → List SocketFwupCall
  | _, calls, [] => calls
  | sessionId, calls, packet :: packets =>
      let entered := enterSession host sessionId calls packet
      if packet.data = [] then
        if packet.operation = socketFwupEnd then
          if packets = [] then entered.2 else entered.2 ++ [SocketFwupCall.exit entered.1]
        else uploadCalls entered.1 entered.2 packets
      else
        let calls := entered.2 ++ [SocketFwupCall.request entered.1 packet.data]
        if host.requestOk calls = false then calls
        else if packet.operation = socketFwupEnd then calls ++ [SocketFwupCall.exit entered.1]
        else uploadCalls entered.1 calls packets

/-- No packet is refused up to the first `END`: its operation is known, the session is opened, and
the request succeeds unless it is the last of the stream. -/
def Welcome : UInt32 → List SocketFwupCall → List FwupPacket → Prop
  | _, _, [] => True
  | sessionId, calls, packet :: packets =>
      let entered := enterSession host sessionId calls packet
      let calls := if packet.data = [] then entered.2
        else entered.2 ++ [SocketFwupCall.request entered.1 packet.data]
      packet.operation ∈ [socketFwupStart, socketFwupEnd, socketFwupData] ∧
        (packet.operation = socketFwupStart → entered.1 ≠ 0) ∧
        (packet.data = [] ∨ packets = [] ∨ host.requestOk calls = true) ∧
        (packet.operation = socketFwupEnd ∨ Welcome entered.1 calls packets)

end Upload

/-- None of the packets is the last one that is carried out. -/
def NoEnd (packets : List FwupPacket) : Prop :=
  ∀ packet ∈ packets, packet.operation ≠ socketFwupEnd

/-- With `left` bytes still to come, one or two bytes of a header that is read have been
received. -/
def MidHeader (packets : List FwupPacket) (left : Nat) : Prop :=
  ∃ done packet later, packets = done ++ packet :: later ∧ NoEnd done ∧
    (left + 1 = (encodeAll (packet :: later)).length ∨
      left + 2 = (encodeAll (packet :: later)).length)

def SocketFwup.Known (state : SocketFwup) : Prop :=
  state.operation ∈ [socketFwupStart, socketFwupEnd, socketFwupData]

theorem SocketFwup.Known.started {state : SocketFwup} (known : state.Known) :
    ¬state.operation < socketFwupStart := by
  have cases := known
  simp only [SocketFwup.Known, List.mem_cons, List.not_mem_nil, or_false] at cases
  rcases cases with operation | operation | operation
  · rw [operation]
    decide
  · rw [operation]
    decide
  · rw [operation]
    decide

/-- The state after a part of the stream, with `rest` still to come, and the calls that will have
been made in the end. -/
inductive Expects (host : SocketFwupHost) (packets : List FwupPacket)
    (result : List SocketFwupCall) (state : SocketFwup) (rest : List UInt8) : Prop
  | between (done ps : List FwupPacket) (split : packets = done ++ ps) (reached : NoEnd done)
      (opened : state.closed = false) (idle : state.operation = 0) (data : state.data ≠ none)
      (stream : rest = encodeAll ps) (welcome : Welcome host state.sessionId state.calls ps)
      (calls : uploadCalls host state.sessionId state.calls ps = result)
  | empty (done ps : List FwupPacket) (split : packets = done ++ ps)
      (reached : state.operation = socketFwupEnd ∨ NoEnd done)
      (opened : state.closed = false) (known : state.Known) (data : state.data ≠ none)
      (datalen : state.datalen = 0) (stream : rest = encodeAll ps)
      (welcome : state.operation = socketFwupEnd ∨ Welcome host state.sessionId state.calls ps)
      (calls : (if state.operation = socketFwupEnd then
          if ps = [] then state.calls else state.calls ++ [SocketFwupCall.exit state.sessionId]
        else uploadCalls host state.sessionId state.calls ps) = result)
  | inside (done ps : List FwupPacket) (got left : List UInt8) (buffer : Nat → UInt8)
      (split : packets = done ++ ps) (reached : state.operation = socketFwupEnd ∨ NoEnd done)
      (opened : state.closed = false) (known : state.Known) (data : state.data = some buffer)
      (datalen : state.datalen.toNat = got.length + left.length)
      (bound : got.length + left.length ≤ 2048) (some : left ≠ [])
      (offset : state.currentOffset.toNat = got.length)
      (content : Buffer.toList buffer got.length = got) (stream : rest = left ++ encodeAll ps)
      (fine : ps = [] ∨ host.requestOk
        (state.calls ++ [SocketFwupCall.request state.sessionId (got ++ left)]) = true)
      (welcome : state.operation = socketFwupEnd ∨ Welcome host state.sessionId
        (state.calls ++ [SocketFwupCall.request state.sessionId (got ++ left)]) ps)
      (calls : (if host.requestOk
            (state.calls ++ [SocketFwupCall.request state.sessionId (got ++ left)]) = false then
          state.calls ++ [SocketFwupCall.request state.sessionId (got ++ left)]
        else if state.operation = socketFwupEnd then
          state.calls ++ [SocketFwupCall.request state.sessionId (got ++ left)] ++
            [SocketFwupCall.exit state.sessionId]
        else uploadCalls host state.sessionId
          (state.calls ++ [SocketFwupCall.request state.sessionId (got ++ left)]) ps) = result)
  | ended (last : state.closed = true ∨ rest = []) (calls : state.calls = result)

section Rounds

variable {host : SocketFwupHost} {packets : List FwupPacket} {result : List SocketFwupCall}
  {state : SocketFwup} {chunk rest : List UInt8}

inductive RoundExpects (host : SocketFwupHost) (packets : List FwupPacket)
    (result : List SocketFwupCall) (state : SocketFwup) (chunk rest : List UInt8) :
    FwupRound → Prop
  | done (after : SocketFwup) (expects : Expects host packets result after rest) :
      RoundExpects host packets result state chunk rest (.done after)
  | next (after : SocketFwup) (left : List UInt8)
      (expects : Expects host packets result after (left ++ rest))
      (opened : after.closed = false) (fewer : after.roundsLeft left < state.roundsLeft chunk) :
      RoundExpects host packets result state chunk rest (.next after left)

theorem finish_over (data : state.data ≠ none)
    (calls : state.calls ++ [SocketFwupCall.exit state.sessionId] = result) :
    Expects host packets result state.finish rest := by
  cases content : state.data with
  | none => exact absurd content data
  | some buffer =>
      refine .ended (.inl ?_) ?_
      · simp [SocketFwup.finish, SocketFwup.freeCurrentPack, content]
      · simpa [SocketFwup.finish, SocketFwup.freeCurrentPack, content] using calls

theorem roundsLeft_idle {after : SocketFwup} (known : state.Known) (idle : after.operation = 0)
    {left : List UInt8} (shorter : left.length ≤ chunk.length) :
    after.roundsLeft left < state.roundsLeft chunk := by
  unfold SocketFwup.roundsLeft
  rw [if_neg known.started, idle, if_pos (by decide)]
  omega

theorem round_empty (done ps : List FwupPacket) (split : packets = done ++ ps)
    (reached : state.operation = socketFwupEnd ∨ NoEnd done)
    (opened : state.closed = false) (known : state.Known) (data : state.data ≠ none)
    (datalen : state.datalen = 0) (filled : chunk ≠ []) (stream : chunk ++ rest = encodeAll ps)
    (welcome : state.operation = socketFwupEnd ∨ Welcome host state.sessionId state.calls ps)
    (calls : (if state.operation = socketFwupEnd then
        if ps = [] then state.calls else state.calls ++ [SocketFwupCall.exit state.sessionId]
      else uploadCalls host state.sessionId state.calls ps) = result) :
    RoundExpects host packets result state chunk rest (state.recvRound host chunk) := by
  have short : ¬(state.datalen > 0 ∧ state.datalen ≤ socketFwupPackSize) := by
    rw [datalen]
    decide
  unfold SocketFwup.recvRound
  rw [if_neg known.started, if_neg short, if_pos datalen]
  have more : ps ≠ [] := by
    rintro rfl
    exact filled (List.append_eq_nil_iff.mp stream).1
  by_cases last : state.operation = socketFwupEnd
  · rw [if_pos last, if_neg more] at calls
    rw [if_pos last]
    exact .done _ (finish_over data calls)
  · rw [if_neg last] at calls
    rw [if_neg last]
    apply RoundExpects.next
    · exact .between done ps split (reached.resolve_left last) opened rfl data stream
        (welcome.resolve_left last) calls
    · exact opened
    · exact roundsLeft_idle known rfl (Nat.le_refl _)

theorem header_length (packet : FwupPacket) (word : UInt16) (more : List UInt8) :
    (ntohs (copyLength word (UInt8.ofNat (packet.data.length / 256) ::
      UInt8.ofNat packet.data.length :: more))).toNat = packet.data.length := by
  have bound := packet.bound
  rw [ntohs_copyLength, UInt8.toNat_ofNat', UInt8.toNat_ofNat']
  omega

theorem recvHeader_whole {packet : FwupPacket} {more : List UInt8}
    (known : packet.operation ∈ [socketFwupStart, socketFwupEnd, socketFwupData])
    (entered : packet.operation = socketFwupStart →
      (enterSession host state.sessionId state.calls packet).1 ≠ 0) (high low : UInt8) :
    state.recvHeader host (packet.operation :: high :: low :: more) =
      .next { state with
        currentOffset := 0
        operation := packet.operation
        datalen := ntohs (copyLength state.datalen (high :: low :: more))
        sessionId := (enterSession host state.sessionId state.calls packet).1
        calls := (enterSession host state.sessionId state.calls packet).2 } more := by
  have valid : ¬(packet.operation > socketFwupData ∨ packet.operation < socketFwupStart) := by
    simp only [List.mem_cons, List.not_mem_nil, or_false] at known
    rcases known with operation | operation | operation <;> rw [operation] <;> decide
  unfold SocketFwup.recvHeader
  dsimp only [List.headD_cons, List.drop_succ_cons, List.drop_zero]
  rw [if_neg valid]
  by_cases start : packet.operation = socketFwupStart
  · have fresh := entered start
    simp only [enterSession, start, if_true] at fresh ⊢
    rw [if_neg fresh]
    rfl
  · simp only [enterSession, start, if_false]
    rfl

theorem header_inside {done ps : List FwupPacket} {packet : FwupPacket}
    (split : packets = done ++ packet :: ps) (reached : NoEnd done) (filled : chunk ≠ [])
    (stream : chunk ++ rest = encodeAll (packet :: ps)) (good : ¬MidHeader packets rest.length) :
    ∃ more, chunk = packet.operation :: UInt8.ofNat (packet.data.length / 256) ::
        UInt8.ofNat packet.data.length :: more ∧ more ++ rest = packet.data ++ encodeAll ps := by
  have lengths := congrArg List.length stream
  rw [List.length_append] at lengths
  cases chunk with
  | nil => exact absurd rfl filled
  | cons first chunk =>
      obtain ⟨rfl, others⟩ := List.cons.inj stream
      cases chunk with
      | nil =>
          -- Only the operation has come.
          refine absurd ⟨done, packet, ps, split, reached, .inl ?_⟩ good
          rw [← lengths]
          exact Nat.add_comm _ _
      | cons high chunk =>
          obtain ⟨rfl, remains⟩ := List.cons.inj others
          cases chunk with
          | nil =>
              refine absurd ⟨done, packet, ps, split, reached, .inr ?_⟩ good
              rw [← lengths]
              exact Nat.add_comm _ _
          | cons low more =>
              obtain ⟨rfl, behind⟩ := List.cons.inj remains
              exact ⟨more, rfl, behind⟩

theorem round_between (done ps : List FwupPacket) (split : packets = done ++ ps)
    (reached : NoEnd done) (opened : state.closed = false) (idle : state.operation = 0)
    (data : state.data ≠ none) (filled : chunk ≠ []) (stream : chunk ++ rest = encodeAll ps)
    (good : ¬MidHeader packets rest.length)
    (welcome : Welcome host state.sessionId state.calls ps)
    (calls : uploadCalls host state.sessionId state.calls ps = result) :
    RoundExpects host packets result state chunk rest (state.recvRound host chunk) := by
  cases ps with
  | nil => exact absurd (List.append_eq_nil_iff.mp stream).1 filled
  | cons packet ps =>
      obtain ⟨more, rfl, behind⟩ := header_inside split reached filled stream good
      obtain ⟨known, entered, fine, later⟩ := welcome
      have length := header_length packet state.datalen more
      unfold SocketFwup.recvRound
      rw [if_pos (by rw [idle]; decide), recvHeader_whole known entered]
      have inner : packets = (done ++ [packet]) ++ ps := by
        rw [split, List.append_assoc, List.singleton_append]
      have further : packet.operation = socketFwupEnd ∨ NoEnd (done ++ [packet]) := by
        by_cases last : packet.operation = socketFwupEnd
        · exact .inl last
        · exact .inr (List.forall_mem_append.mpr ⟨reached, List.forall_mem_singleton.mpr last⟩)
      apply RoundExpects.next
      · by_cases blank : packet.data = []
        · have noData : packet.data.length = 0 := List.length_eq_zero_iff.mpr blank
          simp only [uploadCalls, blank, if_true] at calls
          rw [if_pos blank] at later
          refine .empty (done ++ [packet]) ps inner further opened known data ?_ ?_ later calls
          · exact UInt16.toNat_inj.mp (length.trans noData)
          · rw [blank, List.nil_append] at behind
            exact behind
        · obtain ⟨buffer, content⟩ := Option.ne_none_iff_exists'.mp data
          simp only [uploadCalls, blank, if_false] at calls
          rw [if_neg blank] at later fine
          refine .inside (done ++ [packet]) ps [] packet.data buffer inner further opened known content
            ?_ ?_ blank rfl rfl behind (fine.resolve_left blank) later calls
          · rw [List.length_nil, Nat.zero_add]
            exact length
          · rw [List.length_nil, Nat.zero_add]
            exact packet.bound
      · exact opened
      · have after : SocketFwup.Known { state with operation := packet.operation } := known
        have started : ¬packet.operation < socketFwupStart := after.started
        simp only [SocketFwup.roundsLeft, idle, started, if_false, List.length_cons]
        rw [if_pos (by decide)]
        omega

theorem requestPack_expects {before : SocketFwup} {buffer : Nat → UInt8}
    {content more : List UInt8}
    (done ps : List FwupPacket) (split : packets = done ++ ps)
    (reached : state.operation = socketFwupEnd ∨ NoEnd done) (opened : state.closed = false)
    (data : state.data = some buffer)
    (whole : Buffer.toList buffer state.datalen.toNat = content)
    (shorter : more.length ≤ chunk.length) (started : before.roundsLeft chunk = 2 * chunk.length + 1)
    (stream : more ++ rest = encodeAll ps)
    (fine : ps = [] ∨ host.requestOk
      (state.calls ++ [SocketFwupCall.request state.sessionId content]) = true)
    (welcome : state.operation = socketFwupEnd ∨ Welcome host state.sessionId
      (state.calls ++ [SocketFwupCall.request state.sessionId content]) ps)
    (calls : (if host.requestOk
          (state.calls ++ [SocketFwupCall.request state.sessionId content]) = false then
        state.calls ++ [SocketFwupCall.request state.sessionId content]
      else if state.operation = socketFwupEnd then
        state.calls ++ [SocketFwupCall.request state.sessionId content] ++
          [SocketFwupCall.exit state.sessionId]
      else uploadCalls host state.sessionId
        (state.calls ++ [SocketFwupCall.request state.sessionId content]) ps) = result) :
    RoundExpects host packets result before chunk rest (state.requestPack host more) := by
  unfold SocketFwup.requestPack
  rw [data, Option.elim_some, whole]
  dsimp only
  have filled : state.data ≠ none := by
    rw [data]
    nofun
  by_cases refused : host.requestOk
      (state.calls ++ [SocketFwupCall.request state.sessionId content]) = false
  · rw [if_pos refused] at calls ⊢
    have last : ps = [] := by
      apply fine.resolve_right
      rw [refused]
      nofun
    rw [last] at stream
    exact .done _ (.ended (.inr (List.append_eq_nil_iff.mp stream).2) calls)
  · rw [if_neg refused] at calls ⊢
    by_cases last : state.operation = socketFwupEnd
    · rw [if_pos last] at calls ⊢
      rw [← data]
      exact .done _ (finish_over filled calls)
    · rw [if_neg last] at calls ⊢
      rw [← data]
      apply RoundExpects.next
      · exact .between done ps split (reached.resolve_left last) opened rfl filled stream
          (welcome.resolve_left last) calls
      · exact opened
      · rw [started]
        simp only [SocketFwup.roundsLeft]
        rw [if_pos (by decide)]
        omega

theorem chunk_within {left tail : List UInt8} (stream : chunk ++ rest = left ++ tail)
    (short : chunk.length < left.length) :
    ∃ later, left = chunk ++ later ∧ rest = later ++ tail := by
  rcases List.append_eq_append_iff.mp stream with within | ⟨more, rfl, _⟩
  · exact within
  · rw [List.length_append] at short
    omega

theorem chunk_covers {left tail : List UInt8} (stream : chunk ++ rest = left ++ tail)
    (long : ¬chunk.length < left.length) :
    ∃ more, chunk = left ++ more ∧ more ++ rest = tail := by
  rcases List.append_eq_append_iff.mp stream with ⟨later, rfl, remains⟩ | ⟨more, rfl, remains⟩
  · have none : later = [] := by
      rw [List.length_append] at long
      exact List.length_eq_zero_iff.mp (by omega)
    subst none
    exact ⟨[], by simp, by simpa using remains⟩
  · exact ⟨more, rfl, remains.symm⟩

theorem offset_advanced {offset : UInt16} {got : List UInt8} (place : offset.toNat = got.length)
    (bytes : List UInt8) (bound : got.length + bytes.length ≤ 2048) :
    (offset + UInt16.ofNat bytes.length).toNat = got.length + bytes.length := by
  rw [UInt16.toNat_add, UInt16.toNat_ofNat', place]
  omega

theorem Buffer.toList_got {buffer : Nat → UInt8} {got : List UInt8}
    (content : Buffer.toList buffer got.length = got) (bytes : List UInt8) :
    Buffer.toList (Buffer.copy buffer got.length (fun index => bytes.getD index 0) bytes.length)
      (got.length + bytes.length) = got ++ bytes := by
  rw [Buffer.toList_copy, content, Buffer.toList_getD]

theorem round_inside (done ps : List FwupPacket) (got left : List UInt8) (buffer : Nat → UInt8)
    (split : packets = done ++ ps) (reached : state.operation = socketFwupEnd ∨ NoEnd done)
    (opened : state.closed = false) (known : state.Known)
    (data : state.data = some buffer) (datalen : state.datalen.toNat = got.length + left.length)
    (bound : got.length + left.length ≤ 2048) (missing : left ≠ []) (filled : chunk ≠ [])
    (offset : state.currentOffset.toNat = got.length)
    (content : Buffer.toList buffer got.length = got) (stream : chunk ++ rest = left ++ encodeAll ps)
    (fine : ps = [] ∨ host.requestOk
      (state.calls ++ [SocketFwupCall.request state.sessionId (got ++ left)]) = true)
    (welcome : state.operation = socketFwupEnd ∨ Welcome host state.sessionId
      (state.calls ++ [SocketFwupCall.request state.sessionId (got ++ left)]) ps)
    (calls : (if host.requestOk
          (state.calls ++ [SocketFwupCall.request state.sessionId (got ++ left)]) = false then
        state.calls ++ [SocketFwupCall.request state.sessionId (got ++ left)]
      else if state.operation = socketFwupEnd then
        state.calls ++ [SocketFwupCall.request state.sessionId (got ++ left)] ++
          [SocketFwupCall.exit state.sessionId]
      else uploadCalls host state.sessionId
        (state.calls ++ [SocketFwupCall.request state.sessionId (got ++ left)]) ps) = result) :
    RoundExpects host packets result state chunk rest (state.recvRound host chunk) := by
  have some : 0 < left.length := List.length_pos_iff.mpr missing
  have fits : state.datalen > 0 ∧ state.datalen ≤ socketFwupPackSize := by
    constructor
    · exact UInt16.lt_iff_toNat_lt.mpr (by rw [datalen]; exact Nat.lt_add_left _ some)
    · exact UInt16.le_iff_toNat_le.mpr (by rw [datalen]; exact bound)
  have need : (state.datalen - state.currentOffset).toNat = left.length := by
    rw [UInt16.toNat_sub_of_le _ _ (UInt16.le_iff_toNat_le.mpr (by omega))]
    omega
  have started : state.roundsLeft chunk = 2 * chunk.length + 1 := by
    rw [SocketFwup.roundsLeft, if_neg known.started]
  unfold SocketFwup.recvRound
  rw [if_neg known.started, if_pos fits]
  unfold SocketFwup.recvData
  rw [data, Option.elim_some, need, offset]
  by_cases short : chunk.length < left.length
  case pos =>
    -- The pbuf ends inside the data.
    obtain ⟨later, rfl, behind⟩ := chunk_within stream short
    rw [List.take_of_length_le (Nat.le_of_lt short)]
    rw [List.length_append] at short datalen bound
    have offsetNext := offset_advanced offset chunk (by omega)
    have incomplete : state.currentOffset + UInt16.ofNat chunk.length ≠ state.datalen := by
      intro same
      rw [same, datalen] at offsetNext
      omega
    dsimp only
    rw [if_neg incomplete, List.drop_length]
    rw [← List.append_assoc] at fine welcome calls
    apply RoundExpects.next
    · refine .inside done ps (got ++ chunk) later _ split reached opened known rfl ?_ ?_ ?_ ?_ ?_ ?_ fine
        welcome calls
      · rw [List.length_append, Nat.add_assoc]
        exact datalen
      · rw [List.length_append, Nat.add_assoc]
        exact bound
      · rintro rfl
        simp at short
      · rw [List.length_append]
        exact offsetNext
      · rw [List.length_append]
        exact Buffer.toList_got content chunk
      · exact behind
    · exact opened
    · rw [started]
      simp only [SocketFwup.roundsLeft, List.length_nil]
      have size := List.length_pos_iff.mpr filled
      split <;> omega
  case neg =>
    obtain ⟨more, rfl, behind⟩ := chunk_covers stream short
    rw [List.take_left' rfl]
    have offsetNext := offset_advanced offset left bound
    have complete : state.currentOffset + UInt16.ofNat left.length = state.datalen :=
      UInt16.toNat_inj.mp (by rw [offsetNext, datalen])
    dsimp only
    rw [if_pos complete, List.drop_left' rfl]
    refine requestPack_expects done ps split reached opened rfl ?_ ?_ started behind fine welcome
      calls
    · dsimp only
      rw [datalen]
      exact Buffer.toList_got content left
    · rw [List.length_append]
      exact Nat.le_add_left _ _

theorem recvRound_expects (expects : Expects host packets result state (chunk ++ rest))
    (opened : state.closed = false) (filled : chunk ≠ [])
    (good : ¬MidHeader packets rest.length) :
    RoundExpects host packets result state chunk rest (state.recvRound host chunk) := by
  cases expects with
  | between done ps split reached opened idle data stream welcome calls =>
      exact round_between done ps split reached opened idle data filled stream good welcome calls
  | empty done ps split reached opened known data datalen stream welcome calls =>
      exact round_empty done ps split reached opened known data datalen filled stream welcome calls
  | inside done ps got left buffer split reached opened known data datalen bound missing offset
      content stream fine welcome calls =>
      exact round_inside done ps got left buffer split reached opened known data datalen bound
        missing filled offset content stream fine welcome calls
  | ended last calls =>
      rcases last with closed | none
      · rw [opened] at closed
        cases closed
      · exact absurd (List.append_eq_nil_iff.mp none).1 filled

theorem recvLoop_expects (expects : Expects host packets result state (chunk ++ rest))
    (opened : state.closed = false) (filled : chunk ≠ [])
    (good : ¬MidHeader packets rest.length) {rounds : Nat}
    (enough : state.roundsLeft chunk < rounds) :
    ∃ after, SocketFwup.recvLoop host rounds state chunk = some after ∧
      Expects host packets result after rest := by
  induction rounds generalizing state chunk with
  | zero => omega
  | succ rounds ih =>
      rw [SocketFwup.recvLoop]
      have outcome := recvRound_expects expects opened filled good
      generalize state.recvRound host chunk = round at outcome ⊢
      cases outcome with
      | done after next => exact ⟨after, rfl, next⟩
      | next after left next opened fewer =>
          cases left with
          | nil => exact ⟨after, rfl, next⟩
          | cons byte left => exact ih next opened (List.cons_ne_nil _ _) (by omega)

theorem Expects.calls_eq (expects : Expects host packets result state []) :
    state.calls = result := by
  have nothing {ps : List FwupPacket} (stream : [] = encodeAll ps) : ps = [] := by
    cases ps with
    | nil => rfl
    | cons packet ps => cases stream
  cases expects with
  | between _ ps _ _ _ _ _ stream _ calls =>
      rwa [nothing stream] at calls
  | empty _ ps _ _ _ _ _ _ stream _ calls =>
      rw [nothing stream, if_pos rfl] at calls
      split at calls
      · exact calls
      · exact calls
  | inside _ _ _ left _ _ _ _ _ _ _ _ missing _ _ stream _ _ _ =>
      exact absurd (List.append_eq_nil_iff.mp stream.symm).1 missing
  | ended _ calls => exact calls

theorem receiveAll_expects {pbufs : List (List UInt8)}
    (expects : Expects host packets result state pbufs.flatten)
    (filled : ∀ pbuf ∈ pbufs, pbuf ≠ [])
    (good : ∀ before after, pbufs = before ++ after → ¬MidHeader packets after.flatten.length) :
    ∃ after, state.receiveAll host pbufs = some after ∧ after.calls = result := by
  induction pbufs generalizing state with
  | nil => exact ⟨state, rfl, expects.calls_eq⟩
  | cons pbuf rest ih =>
      obtain ⟨first, others⟩ := List.forall_mem_cons.mp filled
      have later (before after : List (List UInt8)) (split : rest = before ++ after) :
          ¬MidHeader packets after.flatten.length :=
        good (pbuf :: before) after (by rw [split, List.cons_append])
      rw [SocketFwup.receiveAll, List.foldlM_cons]
      cases closed : state.closed with
      | true =>
          have last : Expects host packets result state rest.flatten := by
            apply Expects.ended (.inl closed)
            cases expects with
            | between _ _ _ _ opened => cases closed.symm.trans opened
            | empty _ _ _ _ opened => cases closed.symm.trans opened
            | inside _ _ _ _ _ _ _ opened => cases closed.symm.trans opened
            | ended _ calls => exact calls
          exact ih last others later
      | false =>
          have enough : state.roundsLeft pbuf < 2 * pbuf.length + 2 := by
            unfold SocketFwup.roundsLeft
            split <;> omega
          obtain ⟨after, received, next⟩ := recvLoop_expects expects closed first
            (good [pbuf] rest rfl) enough
          rw [if_neg Bool.false_ne_true, SocketFwup.socketFwupRecv, received]
          exact ih next others later

end Rounds

theorem encodeAll_cons (packet : FwupPacket) (packets : List FwupPacket) :
    encodeAll (packet :: packets) = packet.encode ++ encodeAll packets := List.flatMap_cons ..

theorem encodeAll_append (first second : List FwupPacket) :
    encodeAll (first ++ second) = encodeAll first ++ encodeAll second := List.flatMap_append

theorem not_midHeader_boundary (done ps : List FwupPacket) :
    ¬MidHeader (done ++ ps) (encodeAll ps).length := by
  rintro ⟨before, packet, later, split, -, middle⟩
  have header : (encodeAll (packet :: later)).length =
      packet.data.length + 3 + (encodeAll later).length := by
    rw [encodeAll_cons, List.length_append, encode_length]
  rcases List.append_eq_append_iff.mp split with ⟨between, rfl, same⟩ | ⟨between, rfl, same⟩
  · have longer := congrArg List.length (encodeAll_append between (packet :: later))
    rw [← same, List.length_append] at longer
    omega
  · cases between with
    | nil =>
        rw [List.nil_append] at same
        rw [same] at middle
        omega
    | cons _ between =>
        have later_eq : later = between ++ ps := (List.cons.inj same).2
        have longer := congrArg List.length (encodeAll_append between ps)
        rw [← later_eq, List.length_append] at longer
        omega

def SocketFwupHost.willing : SocketFwupHost := ⟨fun _ => 5, fun _ => true⟩

def SocketFwup.reset : SocketFwup := ⟨0, 0, none, 0, 0, [], false⟩

end SmartMeter
