import SmartMeter.Sockets.RecvCacheCore
import SmartMeter.Library.RingBuffer
import SmartMeter.Library.Runs

/-!
What the ring of a socket holds over a run of packets and reports. A packet that does not fit
costs the oldest bytes, with the read index set behind the write index; the copy loop looks for
that only while the read index is not in the first cell.
-/

namespace SmartMeter

open RingBuffer

namespace CacheCopy

variable {bytes : List UInt8} {copylen : Nat}

/-- A chunk up to the end of the ring, or less. -/
structure Fits (copy : CacheCopy) (bytes : List UInt8) (copylen : Nat) : Prop where
  positive : 0 < copylen
  inside : copy.head + copylen ≤ tlsSocketRecvBufSize
  needed : copylen ≤ copy.buflen.toNat
  rest : copy.offset.toNat + copy.buflen.toNat = bytes.length
  short : bytes.length < 65536

theorem copyChunk_offset {copy : CacheCopy} (fits : copy.Fits bytes copylen) :
    (copy.copyChunk bytes copylen).offset.toNat = copy.offset.toNat + copylen := by
  obtain ⟨_, _, needed, rest, short⟩ := fits
  simp only [copyChunk, UInt16.toNat_add, UInt16.toNat_ofNat']
  omega

theorem copyChunk_buflen {copy : CacheCopy} (fits : copy.Fits bytes copylen) :
    (copy.copyChunk bytes copylen).buflen.toNat = copy.buflen.toNat - copylen := by
  obtain ⟨_, _, needed, rest, short⟩ := fits
  simp only [copyChunk, UInt16.toNat_sub, UInt16.toNat_ofNat']
  omega

theorem copyChunk_stores {copy : CacheCopy} (fits : copy.Fits bytes copylen) :
    (bytes.drop (copy.copyChunk bytes copylen).offset.toNat).foldl (Ring.store 512)
        ((copy.copyChunk bytes copylen).buf, (copy.copyChunk bytes copylen).head) =
      (bytes.drop copy.offset.toNat).foldl (Ring.store 512) (copy.buf, copy.head) := by
  obtain ⟨positive, inside, needed, rest, short⟩ := id fits
  have headBound := copy.head_lt
  unfold tlsSocketRecvBufSize at inside headBound
  have length : ((bytes.drop copy.offset.toNat).take copylen).length = copylen := by
    rw [List.length_take, List.length_drop]
    omega
  have parts : bytes.drop copy.offset.toNat =
      (bytes.drop copy.offset.toNat).take copylen ++
        bytes.drop (copy.copyChunk bytes copylen).offset.toNat := by
    rw [copyChunk_offset fits, ← List.drop_drop, List.take_append_drop]
  conv => rhs; rw [parts, List.foldl_append, Ring.store_copy copy.buf _ 0 headBound
    (by rw [length]; exact inside), length]
  simp only [copyChunk, length]
  rfl

def free (head tail : Nat) : Nat := (511 - head + tail) % 512

theorem circSpaceToEndFull_eq (head tail : Nat) : SocketCache.circSpaceToEndFull head tail =
    if free head tail < 511 - head then free head tail else 511 - head + 1 := rfl

theorem circSpaceToEndFull_le {head : Nat} (tail : Nat) (headBound : head < 512) :
    head + SocketCache.circSpaceToEndFull head tail ≤ 512 := by
  rw [circSpaceToEndFull_eq]
  split <;> omega

theorem circSpaceToEndFull_zero (head : Nat) {tail : Nat} (first : tail % 512 = 0) :
    0 < SocketCache.circSpaceToEndFull head tail := by
  rw [circSpaceToEndFull_eq]
  unfold free
  split <;> omega

theorem circSpaceToEndFull_free {head tail : Nat} (headBound : head < 512) (tailBound : tail < 512)
    (later : tail ≠ 0) : SocketCache.circSpaceToEndFull head tail ≤ free head tail ∧
      (SocketCache.circSpaceToEndFull head tail = 0 → free head tail = 0) := by
  rw [circSpaceToEndFull_eq]
  unfold free
  split <;> omega

theorem free_copyChunk {copy : CacheCopy} (fits : copy.Fits bytes copylen)
    (within : copylen ≤ free copy.head copy.tail) :
    free (copy.copyChunk bytes copylen).head (copy.copyChunk bytes copylen).tail =
      free copy.head copy.tail - copylen := by
  have inside := fits.inside
  have headBound := copy.head_lt
  have tailBound := copy.tail_le
  simp only [copyChunk, free, tlsSocketRecvBufSize] at within inside headBound tailBound ⊢
  omega

/-- How the loop ends that is at `copy`. -/
structure Ends (copy : CacheCopy) (bytes : List UInt8) (final : CacheCopy) : Prop where
  stored : (final.buf, final.head) =
    (bytes.drop copy.offset.toNat).foldl (Ring.store 512) (copy.buf, copy.head)
  overflow : final.overflow = true ↔
    copy.overflow = true ∨ copy.tail % 512 ≠ 0 ∧ free copy.head copy.tail < copy.buflen.toNat

theorem fits_round {copy : CacheCopy} (short : bytes.length < 65536) (pending : 0 < copy.buflen.toNat)
    (rest : copy.offset.toNat + copy.buflen.toNat = bytes.length)
    (room : SocketCache.circSpaceToEndFull copy.head copy.tail ≠ 0) :
    copy.Fits bytes (if copy.buflen.toNat < SocketCache.circSpaceToEndFull copy.head copy.tail then
      copy.buflen.toNat else SocketCache.circSpaceToEndFull copy.head copy.tail) where
  positive := by split <;> omega
  inside := by
    have most := circSpaceToEndFull_le copy.tail copy.head_lt
    unfold tlsSocketRecvBufSize
    split <;> omega
  needed := by split <;> omega
  rest := rest
  short := short

theorem copyLoop_ends (short : bytes.length < 65536) (rounds : Nat) (copy : CacheCopy)
    (pending : 0 < copy.buflen.toNat)
    (rest : copy.offset.toNat + copy.buflen.toNat = bytes.length)
    (enough : copy.buflen.toNat + (if copy.tail % 512 = 0 then 0 else 1) ≤ rounds) :
    ∃ final, copyLoop bytes rounds copy = some final ∧ copy.Ends bytes final := by
  have tailBound := copy.tail_le
  unfold tlsSocketRecvBufSize at tailBound
  induction rounds generalizing copy with
  | zero => omega
  | succ rounds ih =>
      by_cases room : SocketCache.circSpaceToEndFull copy.head copy.tail = 0
      · have later : copy.tail % 512 ≠ 0 := by
          intro first
          have some := circSpaceToEndFull_zero copy.head first
          omega
        have full := (circSpaceToEndFull_free copy.head_lt (by omega) (by omega)).2 room
        rw [if_neg later] at enough
        obtain ⟨final, ran, ends⟩ := ih copy.drained pending rest (by
          change copy.buflen.toNat + 0 ≤ rounds
          omega) (Nat.zero_le _)
        refine ⟨final, ?_, ends.stored, ?_⟩
        · rw [copyLoop, if_pos room, ran]
        · exact iff_of_true (ends.overflow.mpr (.inl rfl)) (.inr ⟨later, by omega⟩)
      · have fits := fits_round short pending rest room
        have bounded : copy.tail % 512 ≠ 0 →
            (if copy.buflen.toNat < SocketCache.circSpaceToEndFull copy.head copy.tail then
              copy.buflen.toNat else SocketCache.circSpaceToEndFull copy.head copy.tail) ≤
                free copy.head copy.tail := by
          intro later
          have most := (circSpaceToEndFull_free copy.head_lt (by omega) (by omega : copy.tail ≠ 0)).1
          split <;> omega
        rw [copyLoop, if_neg room]
        revert fits bounded
        generalize (if copy.buflen.toNat < SocketCache.circSpaceToEndFull copy.head copy.tail then
          copy.buflen.toNat else SocketCache.circSpaceToEndFull copy.head copy.tail) = copylen
        intro fits bounded
        have positive := fits.positive
        have needed := fits.needed
        have offset := copyChunk_offset fits
        have buflen := copyChunk_buflen fits
        have stores := copyChunk_stores fits
        by_cases finished : bytes.length ≤ (copy.copyChunk bytes copylen).offset.toNat
        · refine ⟨copy.copyChunk bytes copylen, if_pos finished, ?_, ?_⟩
          · rw [← stores, List.drop_eq_nil_of_le finished]
            rfl
          · refine ⟨.inl, ?_⟩
            rintro (before | ⟨later, excess⟩)
            · exact before
            · have most := bounded later
              omega
        · obtain ⟨final, ran, ends⟩ := ih (copy.copyChunk bytes copylen) (by omega) (by omega) (by
            change _ + (if copy.tail % 512 = 0 then 0 else 1) ≤ rounds
            omega) tailBound
          refine ⟨final, (if_neg finished).trans ran, ends.stored.trans stores, ?_⟩
          rw [ends.overflow]
          apply or_congr Iff.rfl
          apply and_congr_right
          intro later
          have most := bounded later
          rw [free_copyChunk fits most, buflen]
          omega

/-- The loop of a packet of exactly the ring's size, whose offset starts below zero. -/
theorem copyLoop_below (full : bytes.length = 512) {rounds : Nat} (many : 513 ≤ rounds)
    (copy : CacheCopy) (offset : copy.offset.toNat = 65535) (buflen : copy.buflen.toNat = 513)
    (room : SocketCache.circSpaceToEndFull copy.head copy.tail ≠ 0) :
    ∃ final, copyLoop bytes (rounds + 1) copy = some final := by
  have most := circSpaceToEndFull_le copy.tail copy.head_lt
  have whole : (if copy.buflen.toNat < SocketCache.circSpaceToEndFull copy.head copy.tail then
      copy.buflen.toNat else SocketCache.circSpaceToEndFull copy.head copy.tail) =
        SocketCache.circSpaceToEndFull copy.head copy.tail := if_neg (by omega)
  rw [copyLoop, if_neg room, whole]
  generalize SocketCache.circSpaceToEndFull copy.head copy.tail = copylen at room most
  have offset' : (copy.copyChunk bytes copylen).offset.toNat = copylen - 1 := by
    simp only [copyChunk, UInt16.toNat_add, UInt16.toNat_ofNat']
    omega
  have buflen' : (copy.copyChunk bytes copylen).buflen.toNat = 513 - copylen := by
    simp only [copyChunk, UInt16.toNat_sub, UInt16.toNat_ofNat']
    omega
  have short : bytes.length < 65536 := by omega
  obtain ⟨final, ran, _⟩ := copyLoop_ends short rounds (copy.copyChunk bytes copylen) (by omega)
    (by omega) (by split <;> omega)
  exact ⟨final, (if_neg (by omega)).trans ran⟩

end CacheCopy

namespace SocketCache

variable {cache : SocketCache}

def stored (pbuf : Pbuf) : Nat := min pbuf.bytes.length 513

theorem startCopy_offset (cache : SocketCache) {pbuf : Pbuf} (size : pbuf.bytes.length ≠ 512) :
    (cache.startCopy pbuf).offset.toNat = pbuf.bytes.length - stored pbuf := by
  have short := pbuf.short
  have start : (cache.startCopy pbuf).offset = if 512 ≤ pbuf.bytes.length then
      UInt16.ofNat pbuf.bytes.length - UInt16.ofNat 512 - 1 else 0 := rfl
  rw [start, stored]
  split
  · simp only [UInt16.toNat_sub, UInt16.toNat_ofNat', UInt16.toNat_one]
    omega
  · rw [UInt16.toNat_zero]
    omega

theorem startCopy_buflen (cache : SocketCache) {pbuf : Pbuf} (size : pbuf.bytes.length ≠ 512) :
    (cache.startCopy pbuf).buflen.toNat = stored pbuf := by
  have short := pbuf.short
  have offset := cache.startCopy_offset size
  have least : stored pbuf ≤ pbuf.bytes.length := Nat.min_le_left ..
  change (UInt16.ofNat pbuf.bytes.length - (cache.startCopy pbuf).offset).toNat = _
  rw [UInt16.toNat_sub, UInt16.toNat_ofNat', offset]
  omega

theorem stored_pos (pbuf : Pbuf) : 0 < stored pbuf :=
  Nat.lt_min.mpr ⟨List.length_pos_iff.mpr pbuf.filled, by decide⟩

theorem copyLoop_start (cache : SocketCache) {pbuf : Pbuf} (size : pbuf.bytes.length ≠ 512) :
    ∃ final, (cache.startCopy pbuf).copyLoop pbuf.bytes
      ((cache.startCopy pbuf).buflen.toNat + 2) = some final ∧
        (cache.startCopy pbuf).Ends pbuf.bytes final := by
  have offset := cache.startCopy_offset size
  have buflen := cache.startCopy_buflen size
  have least : stored pbuf ≤ pbuf.bytes.length := Nat.min_le_left ..
  have positive := stored_pos pbuf
  exact CacheCopy.copyLoop_ends pbuf.short _ _ (by omega) (by omega) (by split <;> omega)

/-- `cache_tcp_recv` comes to an end for every packet. -/
theorem cacheTcpRecv_isSome (cache : SocketCache) (pbuf : Pbuf) :
    (cache.cacheTcpRecv pbuf).isSome := by
  have ends : ∃ final, (cache.startCopy pbuf).copyLoop pbuf.bytes
      ((cache.startCopy pbuf).buflen.toNat + 2) = some final := by
    by_cases size : pbuf.bytes.length = 512
    · have offset : (cache.startCopy pbuf).offset.toNat = 65535 := by
        simp only [startCopy, size, tlsSocketRecvBufSize]
        decide
      have buflen : (cache.startCopy pbuf).buflen.toNat = 513 := by
        simp only [startCopy, size, tlsSocketRecvBufSize]
        decide
      rw [buflen]
      by_cases room : circSpaceToEndFull cache.head cache.tail = 0
      · obtain ⟨final, ran⟩ := CacheCopy.copyLoop_below size (Nat.le_refl 513)
          (cache.startCopy pbuf).drained offset buflen
          (Nat.ne_of_gt (CacheCopy.circSpaceToEndFull_zero _ rfl))
        exact ⟨final, (if_pos room).trans ran⟩
      · exact CacheCopy.copyLoop_below size (by decide) _ offset buflen room
    · obtain ⟨final, ran, _⟩ := cache.copyLoop_start size
      exact ⟨final, ran⟩
  obtain ⟨final, ran⟩ := ends
  simp only [cacheTcpRecv, ran, Option.bind_eq_bind, Option.bind_some]
  split <;> rfl

def unread (cache : SocketCache) : List UInt8 :=
  Buffer.toList (fun index => cache.buf ((cache.tail + index) % tlsSocketRecvBufSize))
    (circCnt cache.head cache.tail)

def ring (cache : SocketCache) (inside : cache.tail < tlsSocketRecvBufSize) :
    Ring UInt8 tlsSocketRecvBufSize :=
  ⟨cache.buf, cache.head, cache.tail, cache.head_lt, inside⟩

theorem unread_eq_contents {ring : Ring UInt8 tlsSocketRecvBufSize} (cells : cache.buf = ring.cells)
    (head : cache.head = ring.head) (tail : cache.tail = ring.tail) :
    cache.unread = ring.contents := by
  unfold unread Ring.contents
  rw [cells, head, tail]
  rfl

theorem unread_length (cache : SocketCache) :
    cache.unread.length = circCnt cache.head cache.tail :=
  Buffer.toList_length ..

/-- A packet is not of exactly the ring's size, and where it does not fit the read index has been
moved off the first cell exactly if it is not to go to the one behind the last. -/
def Takes (cache : SocketCache) (pbuf : Pbuf) : Prop :=
  pbuf.bytes.length ≠ tlsSocketRecvBufSize ∧
    (tlsSocketRecvBufSize ≤ circCnt cache.head cache.tail + stored pbuf →
      (cache.tail = 0 ↔ (cache.head + stored pbuf) % tlsSocketRecvBufSize = 511))

theorem latest_stored (queue : List UInt8) (pbuf : Pbuf) :
    latest (tlsSocketRecvBufSize - 1)
        (queue ++ pbuf.bytes.drop (pbuf.bytes.length - stored pbuf)) =
      latest (tlsSocketRecvBufSize - 1) (queue ++ pbuf.bytes) := by
  unfold stored
  by_cases whole : pbuf.bytes.length ≤ 513
  · rw [Nat.min_eq_left whole, Nat.sub_self, List.drop_zero]
  · have keep : tlsSocketRecvBufSize - 1 = 511 := rfl
    have recent : 511 ≤ (pbuf.bytes.drop (pbuf.bytes.length - 513)).length := by
      rw [List.length_drop]
      omega
    rw [Nat.min_eq_right (by omega), keep, latest_append_of_long _ recent,
      latest_append_of_long _ (by omega : 511 ≤ pbuf.bytes.length),
      ← latest_append_of_long (pbuf.bytes.take (pbuf.bytes.length - 513)) recent,
      List.take_append_drop]

/-- The read index behind a packet: its own old place, or behind the write index. -/
theorem tail_pushOverAll (ring : Ring UInt8 tlsSocketRecvBufSize) (values : List UInt8) :
    (values.foldl Ring.pushOver ring).tail =
      if ring.count + values.length < tlsSocketRecvBufSize then ring.tail
      else (ring.head + values.length + 1) % tlsSocketRecvBufSize := by
  have size : tlsSocketRecvBufSize = 512 := rfl
  split
  · rename_i room
    exact Ring.tail_of_room ring values room
  · have head : (values.foldl Ring.pushOver ring).head =
        (ring.head + values.length) % tlsSocketRecvBufSize := by
      rw [← Ring.store_head ring.cells values ring.head_lt, ← Ring.store_pushOverAll]
    rw [Ring.tail_of_excess ring values (by omega) (by omega), head, Nat.mod_add_mod]

theorem free_of_inside (inside : cache.tail < tlsSocketRecvBufSize) :
    CacheCopy.free cache.head cache.tail = 511 - circCnt cache.head cache.tail := by
  have headBound := cache.head_lt
  simp only [CacheCopy.free, circCnt, tlsSocketRecvBufSize] at inside headBound ⊢
  omega

section

variable {pbuf : Pbuf} (inside : cache.tail < tlsSocketRecvBufSize)
  (fits : tlsSocketRecvBufSize ≤ circCnt cache.head cache.tail + stored pbuf →
    (cache.tail = 0 ↔ (cache.head + stored pbuf) % tlsSocketRecvBufSize = 511))

include inside fits

theorem tail_of_overflow {head : Nat} (wrote : head = (cache.head + stored pbuf) % 512)
    (later : cache.tail % 512 ≠ 0)
    (excess : CacheCopy.free cache.head cache.tail < stored pbuf) :
    head + 1 = if circCnt cache.head cache.tail + stored pbuf < tlsSocketRecvBufSize then cache.tail
      else (cache.head + stored pbuf + 1) % tlsSocketRecvBufSize := by
  have size : tlsSocketRecvBufSize = 512 := rfl
  rw [free_of_inside inside] at excess
  rw [if_neg (by omega), size]
  rw [size] at fits
  have apart := fits (by omega)
  omega

theorem tail_of_no_overflow
    (room : ¬(cache.tail % 512 ≠ 0 ∧ CacheCopy.free cache.head cache.tail < stored pbuf)) :
    cache.tail = if circCnt cache.head cache.tail + stored pbuf < tlsSocketRecvBufSize then cache.tail
      else (cache.head + stored pbuf + 1) % tlsSocketRecvBufSize := by
  have size : tlsSocketRecvBufSize = 512 := rfl
  have counted : circCnt cache.head cache.tail < 512 := Nat.mod_lt _ (by decide)
  rw [free_of_inside inside] at room
  rw [size] at fits inside ⊢
  split
  · rfl
  · have met := fits (by omega)
    omega

end

theorem cacheTcpRecv_unread (inside : cache.tail < tlsSocketRecvBufSize) {pbuf : Pbuf}
    (takes : cache.Takes pbuf) {next : SocketCache} (ran : cache.cacheTcpRecv pbuf = some next) :
    next.tail < tlsSocketRecvBufSize ∧
      next.unread = latest (tlsSocketRecvBufSize - 1) (cache.unread ++ pbuf.bytes) := by
  obtain ⟨size, fits⟩ := takes
  obtain ⟨final, copied, ends⟩ := cache.copyLoop_start size
  have offset := cache.startCopy_offset size
  have buflen := cache.startCopy_buflen size
  have least : stored pbuf ≤ pbuf.bytes.length := Nat.min_le_left ..
  have length : (pbuf.bytes.drop (pbuf.bytes.length - stored pbuf)).length = stored pbuf := by
    rw [List.length_drop]
    omega
  have pushed := Ring.store_pushOverAll (cache.ring inside)
    (pbuf.bytes.drop (pbuf.bytes.length - stored pbuf))
  have stores := ends.stored
  rw [offset] at stores
  have same := Prod.mk.inj (stores.trans pushed.symm)
  have tail := tail_pushOverAll (cache.ring inside)
    (pbuf.bytes.drop (pbuf.bytes.length - stored pbuf))
  have contents := Ring.contents_pushOverAll (cache.ring inside)
    (pbuf.bytes.drop (pbuf.bytes.length - stored pbuf)) (by decide)
  have bound := (pbuf.bytes.drop (pbuf.bytes.length - stored pbuf)).foldl Ring.pushOver
    (cache.ring inside) |>.tail_lt
  have head : final.head = (cache.head + stored pbuf) % tlsSocketRecvBufSize := by
    rw [← length, ← Ring.store_head cache.buf _ cache.head_lt]
    exact congrArg Prod.snd stores
  have overflow := ends.overflow
  rw [buflen] at overflow
  have placed : next.buf = final.buf ∧ next.head = final.head ∧
      next.tail = ((pbuf.bytes.drop (pbuf.bytes.length - stored pbuf)).foldl Ring.pushOver
        (cache.ring inside)).tail := by
    rw [tail, length]
    simp only [cacheTcpRecv, copied, Option.bind_eq_bind, Option.bind_some] at ran
    split at ran
    · rename_i lost
      cases ran
      refine ⟨rfl, rfl, ?_⟩
      have full := (overflow.mp lost).resolve_left Bool.false_ne_true
      exact tail_of_overflow inside fits head full.1 full.2
    · rename_i kept
      cases ran
      refine ⟨rfl, rfl, ?_⟩
      have room := fun full => kept (overflow.mpr (.inr full))
      exact tail_of_no_overflow inside fits room
  obtain ⟨buf, write, read⟩ := placed
  refine ⟨read ▸ bound, ?_⟩
  rw [unread_eq_contents (buf.trans same.1) (write.trans same.2) read, contents]
  exact latest_stored cache.unread pbuf

/-! ### Reading -/

theorem advance_advance (cache : SocketCache) (first second : Nat) :
    (cache.advance first).advance second = cache.advance (first + second) := by
  simp only [advance, Nat.mod_add_mod, Nat.add_assoc]

theorem advance_zero (inside : cache.tail < tlsSocketRecvBufSize) : cache.advance 0 = cache := by
  have kept : cache.tail % tlsSocketRecvBufSize = cache.tail := Nat.mod_eq_of_lt inside
  simp only [advance, Nat.add_zero, kept]

theorem unread_advance (inside : cache.tail < tlsSocketRecvBufSize) {amount : Nat}
    (bound : amount ≤ circCnt cache.head cache.tail) :
    (cache.advance amount).unread = cache.unread.drop amount :=
  Ring.contents_drop (cache.ring inside) bound

theorem circCntToEnd_eq (inside : cache.tail < tlsSocketRecvBufSize) :
    circCntToEnd cache.head cache.tail =
      min (circCnt cache.head cache.tail) (tlsSocketRecvBufSize - cache.tail) := by
  have count : circCntToEnd cache.head cache.tail =
      if (cache.head + (512 - cache.tail)) % 512 < 512 - cache.tail then
        (cache.head + (512 - cache.tail)) % 512 else 512 - cache.tail := rfl
  have whole : circCnt cache.head cache.tail = (cache.head + 512 - cache.tail) % 512 := rfl
  have size : tlsSocketRecvBufSize = 512 := rfl
  rw [count, whole, ← Nat.add_sub_assoc (by omega), size]
  split <;> omega

theorem read_part {cache : SocketCache} {ret : Nat}
    (toEnd : cache.tail + ret ≤ tlsSocketRecvBufSize)
    (bound : ret ≤ circCnt cache.head cache.tail) :
    Buffer.toList (fun index => cache.buf (cache.tail + index)) ret = cache.unread.take ret := by
  rw [unread, Buffer.take_toList _ bound]
  apply Buffer.toList_congr
  intro index before
  rw [Nat.mod_eq_of_lt (by omega)]

theorem readLoop_eq (inside : cache.tail < tlsSocketRecvBufSize) {maxsize rounds : Nat}
    (bound : maxsize ≤ circCnt cache.head cache.tail) (enough : maxsize < rounds)
    (data : List UInt8) :
    readLoop rounds cache maxsize data = (cache.advance maxsize, data ++ cache.unread.take maxsize) := by
  induction rounds generalizing cache maxsize data with
  | zero => omega
  | succ rounds ih =>
      have size : tlsSocketRecvBufSize = 512 := rfl
      have toEnd := circCntToEnd_eq inside
      rw [readLoop]
      by_cases empty : circCntToEnd cache.head cache.tail = 0
      · have nothing : maxsize = 0 := by omega
        rw [if_pos empty, nothing, advance_zero inside, List.take_zero, List.append_nil]
      · rw [if_neg empty]
        have part : (if circCntToEnd cache.head cache.tail > maxsize then maxsize
            else circCntToEnd cache.head cache.tail) =
              min maxsize (circCntToEnd cache.head cache.tail) := by
          split <;> omega
        rw [part]
        generalize retEq : min maxsize (circCntToEnd cache.head cache.tail) = ret
        have read : Buffer.toList (fun index => cache.buf (cache.tail + index)) ret =
            cache.unread.take ret := read_part (by omega) (by omega)
        dsimp only
        rw [read]
        by_cases last : maxsize - ret = 0
        · have all : ret = maxsize := by omega
          rw [if_pos last, all]
        · have left : (cache.advance ret).unread.length = circCnt cache.head cache.tail - ret := by
            rw [unread_advance inside (by omega), List.length_drop, unread_length]
          rw [unread_length] at left
          rw [if_neg last, ih (Nat.mod_lt _ (by decide)) (by omega) (by omega), advance_advance,
            unread_advance inside (by omega), List.append_assoc, ← List.take_add,
            Nat.add_sub_cancel' (by omega)]

/-- A report reads the oldest bytes, as many as are asked for and there. -/
theorem socketRptHandle_eq (inside : cache.tail < tlsSocketRecvBufSize) (datalen : Nat) :
    (cache.socketRptHandle datalen).2 = cache.unread.take datalen ∧
      (cache.socketRptHandle datalen).1.tail < tlsSocketRecvBufSize ∧
      (cache.socketRptHandle datalen).1.unread = cache.unread.drop datalen := by
  have size := cache.unread_length
  have handled : cache.socketRptHandle datalen =
      readLoop ((if circCnt cache.head cache.tail < datalen then circCnt cache.head cache.tail
        else datalen) + 1) cache (if circCnt cache.head cache.tail < datalen then
          circCnt cache.head cache.tail else datalen) [] := rfl
  split at handled
  · rename_i short
    rw [handled, readLoop_eq inside (by omega) (by omega), List.nil_append,
      unread_advance inside (by omega), ← size, List.take_length, List.drop_length,
      List.take_of_length_le (by omega), List.drop_eq_nil_of_le (by omega)]
    exact ⟨rfl, Nat.mod_lt _ (by decide), rfl⟩
  · rw [handled, readLoop_eq inside (by omega) (by omega), unread_advance inside (by omega)]
    exact ⟨rfl, Nat.mod_lt _ (by decide), rfl⟩

end SocketCache

inductive CacheEvent
  | packet (pbuf : Pbuf)
  | report (rpt : SocketRpt)

/-- A report with the bytes that were due when it was made. -/
structure SocketReport where
  rpt : SocketRpt
  due : List UInt8
  data : List UInt8

/-- A ring that is watched: the bytes that were received and neither read nor displaced by more
recent ones, and the reports so far. -/
structure CacheWatch where
  cache : SocketCache
  queue : List UInt8
  reports : List SocketReport

namespace CacheWatch

def step (watch : CacheWatch) : CacheEvent → CacheWatch
  | .packet pbuf =>
      { watch with
        cache := (watch.cache.cacheTcpRecv pbuf).get (watch.cache.cacheTcpRecv_isSome pbuf)
        queue := latest (tlsSocketRecvBufSize - 1) (watch.queue ++ pbuf.bytes) }
  | .report rpt =>
      let (cache, data) := watch.cache.socketRptHandle rpt.datalen.toNat
      { cache := cache
        queue := watch.queue.drop rpt.datalen.toNat
        reports := watch.reports ++ [⟨rpt, watch.queue, data⟩] }

structure Sound (watch : CacheWatch) : Prop where
  head_lt : watch.cache.head < tlsSocketRecvBufSize
  tail_lt : watch.cache.tail < tlsSocketRecvBufSize
  unread : watch.cache.unread = watch.queue
  data : ∀ report ∈ watch.reports, report.data = report.due.take report.rpt.datalen.toNat
  room : ∀ report ∈ watch.reports,
    report.rpt.header.length + report.data.length + 1 ≤ cmdindBufSize

def Takes (watch : CacheWatch) : CacheEvent → Prop
  | .packet pbuf => watch.cache.Takes pbuf
  | .report _ => True

theorem Sound.step {watch : CacheWatch} (sound : watch.Sound) {event : CacheEvent}
    (takes : watch.Takes event) : (watch.step event).Sound := by
  cases event with
  | packet pbuf =>
      have next := SocketCache.cacheTcpRecv_unread sound.tail_lt takes (Option.some_get
        (watch.cache.cacheTcpRecv_isSome pbuf)).symm
      rw [sound.unread] at next
      rw [CacheWatch.step]
      refine ⟨SocketCache.head_lt _, next.1, ?_, sound.data, sound.room⟩
      dsimp only
      exact next.2
  | report rpt =>
      obtain ⟨data, tail, unread⟩ :=
        SocketCache.socketRptHandle_eq sound.tail_lt rpt.datalen.toNat
      rw [sound.unread] at data unread
      refine ⟨SocketCache.head_lt _, tail, unread, ?_, ?_⟩
      · intro report member
        rcases List.mem_append.mp member with before | now
        · exact sound.data report before
        · rw [List.mem_singleton.mp now]
          exact data
      · intro report member
        rcases List.mem_append.mp member with before | now
        · exact sound.room report before
        · have header := rpt.header_length
          have count : watch.cache.unread.length < tlsSocketRecvBufSize := by
            rw [SocketCache.unread_length]
            exact Nat.mod_lt _ (by decide)
          have size : tlsSocketRecvBufSize = 512 := rfl
          have length : (watch.cache.socketRptHandle rpt.datalen.toNat).2.length ≤ 511 := by
            rw [data, List.length_take, ← sound.unread]
            omega
          rw [List.mem_singleton.mp now]
          change rpt.header.length + (watch.cache.socketRptHandle rpt.datalen.toNat).2.length + 1 ≤ 600
          omega

end CacheWatch

/-- Every packet is stored in the end, and in every run in which each packet is taken the ring
holds the latest bytes and each report reads the oldest of them into its buffer. -/
theorem socket_cache_sound {cache : SocketCache} (empty : cache.tail = cache.head)
    {events : List CacheEvent}
    (along : Runs.Along CacheWatch.step CacheWatch.Takes ⟨cache, [], []⟩ events) :
    (∀ (other : SocketCache) (pbuf : Pbuf), (other.cacheTcpRecv pbuf).isSome) ∧
      ∀ before after, events = before ++ after →
        (before.foldl CacheWatch.step ⟨cache, [], []⟩).Sound := by
  refine ⟨SocketCache.cacheTcpRecv_isSome, ?_⟩
  intro before after split
  have start : (CacheWatch.mk cache [] []).Sound := by
    refine ⟨cache.head_lt, empty ▸ cache.head_lt, ?_, nofun, nofun⟩
    apply List.eq_nil_of_length_eq_zero
    rw [SocketCache.unread_length, empty]
    simp [SocketCache.circCnt]
  exact Runs.reached_of_along (fun _ _ sound takes => sound.step takes) start along split

def SocketCache.met (index : Nat) (bound : index < tlsSocketRecvBufSize) : SocketCache :=
  ⟨fun _ => 0, index, index, bound, Nat.le_of_lt bound⟩

def Pbuf.ofCount (value : UInt8) (count : Nat) (bounds : 0 < count ∧ count < 65536) : Pbuf :=
  ⟨List.replicate count value, by simp only [ne_eq, List.replicate_eq_nil_iff]; omega,
    by rw [List.length_replicate]; exact bounds.2⟩

theorem socket_cache_sound_long_packet :
    ([.packet (.ofCount 7 600 (by decide)), .report ⟨1, 100, 0, 80⟩].foldl CacheWatch.step
      ⟨.met 1 (by decide), [], []⟩).Sound := by
  refine (socket_cache_sound rfl ?_).2 _ [] (List.append_nil _).symm
  refine ⟨?_, trivial, trivial⟩
  have length : (Pbuf.ofCount 7 600 (by decide)).bytes.length = 600 := List.length_replicate
  change SocketCache.Takes _ _
  rw [SocketCache.Takes, SocketCache.stored, length]
  decide

/-- The read index of a new ring is in the first cell, where an overflow is not seen. -/
theorem long_packet_lost :
    ¬([.packet (.ofCount 7 513 (by decide))].foldl CacheWatch.step
      ⟨.met 0 (by decide), [], []⟩).Sound := by
  intro sound
  have lengths := congrArg List.length sound.unread
  revert lengths
  decide +kernel

end SmartMeter
