import SmartMeter.Library.Nibbles
import SmartMeter.Oneshot.NibbleShift

/-!
Fragments that a phone broadcasts by the lengths of its frames, half a byte a frame, and what the
decoder makes of those that it hears without a gap.
-/

namespace SmartMeter

open Nibbles

structure Packet where
  bytes : List UInt8
  size : bytes.length = (bytes.getD 1 0 &&& 0xF).toNat + 3

namespace Packet

def byte (packet : Packet) (index : Nat) : UInt8 := packet.bytes.getD index 0

/-- The lengths of the frames from half byte `n` on; the first of all is the tag. An end mark says
that a fragment is shorter than it could be. -/
def remaining (packet : Packet) (smtcfg : UInt32) (n : Nat) : List UInt32 :=
  (List.range' n (2 * packet.bytes.length - n)).map
      (fun n => smtcfg + (nibble packet.byte n).toUInt32) ++
    if packet.bytes.length < 7 then [smtcfg - 1] else []

/-- Bits that are in the buffer before belong to the packet, the tag's are there. -/
def Covers (packet : Packet) (start : Nat → UInt8) : Prop :=
  ∀ index < packet.bytes.length,
    start index ||| (if index = 0 then packet.byte 0 &&& 0xF else packet.byte index) =
      packet.byte index

theorem Covers.laid {packet : Packet} {start : Nat → UInt8} (covers : packet.Covers start)
    {count index : Nat} (inside : index < packet.bytes.length) (enough : 2 * index + 1 < count) :
    laid start packet.byte 1 count index = packet.byte index := by
  have covered := covers index inside
  by_cases first : index = 0
  · subst first
    rw [if_pos rfl] at covered
    exact (laid_lower enough).trans covered
  · rw [if_neg first] at covered
    exact (laid_byte (by omega) enough).trans covered

theorem remaining_half {packet : Packet} {n : Nat} (more : n < 2 * packet.bytes.length)
    (smtcfg : UInt32) : packet.remaining smtcfg n =
      (smtcfg + (nibble packet.byte n).toUInt32) :: packet.remaining smtcfg (n + 1) := by
  have count : 2 * packet.bytes.length - n = 2 * packet.bytes.length - (n + 1) + 1 := by omega
  rw [remaining, count, List.range'_succ]
  rfl

theorem remaining_done (packet : Packet) (smtcfg : UInt32) :
    packet.remaining smtcfg (2 * packet.bytes.length) =
      if packet.bytes.length < 7 then [smtcfg - 1] else [] := by
  rw [remaining, Nat.sub_self]
  rfl

end Packet

namespace BroadcastState

/-- A frame of the phone in one direction, heard for the first time. -/
structure Brings (dsflag : Bool) (length : UInt32) (frame : DataFrame) (state : BroadcastState) :
    Prop where
  broadcast : frame.hdr.getDA.isBroadcast = true
  known : (state.compareMacAddr frame.hdr.getSA).1 = true
  direction : frame.hdr.hasTods = dsflag
  length : frame.frmLen = length
  new : state.repeats frame = false

/-- A frame of somebody else, a copy, or one whose length says nothing. -/
def Skips (frame : DataFrame) (state : BroadcastState) : Prop :=
  frame.hdr.getDA.isBroadcast = true → state.takesIn frame = false

def Sends (host : BroadcastHost) (dsflag : Bool) :
    List (Bool × DataFrame) → List UInt32 → BroadcastState → Prop
  | [], lengths, _ => lengths = []
  | (memory, frame) :: rest, lengths, state =>
      state.Skips frame ∧
          Sends host dsflag rest lengths (state.tlsWifiLsdBroadcast host memory frame) ∨
        ∃ length later, lengths = length :: later ∧ state.Brings dsflag length frame ∧
          Sends host dsflag rest later (state.tlsWifiLsdBroadcast host memory frame)

def hearAll (host : BroadcastHost) (frames : List (Bool × DataFrame)) (state : BroadcastState) :
    BroadcastState :=
  frames.foldl (fun state heard => state.tlsWifiLsdBroadcast host heard.1 heard.2) state

/-- One of the frames completes a fragment, and what is passed to
`tls_wifi_oneshotinfo_resolve_udp` begins with the bytes of the packet. -/
def Passes (host : BroadcastHost) (packet : Packet) (frames : List (Bool × DataFrame))
    (state : BroadcastState) : Prop :=
  ∃ before memory frame rest after datasave, frames = before ++ (memory, frame) :: rest ∧
    (state.hearAll host before).completed host frame = some (after, datasave) ∧
    Buffer.toList datasave packet.bytes.length = packet.bytes

/-- `datasave` as the tag leaves it, which is stored before the position is reset. -/
def seeded (packet : Packet) (dsflag : Bool) (state : BroadcastState) : Nat → UInt8 :=
  Function.update (state.datasave dsflag) (state.datacnt dsflag).toNat ((packet.byte 0 >>> 4) <<< 4)

structure Waits (packet : Packet) (dsflag : Bool) (state : BroadcastState) : Prop where
  shaken : state.guchandshakeflag = true
  armed : state.smtcfgArray ≠ 0
  between : state.syncnum = false
  wanted : state.wantsTag (state.smtcfgArray.toUInt32 + (packet.byte 0 >>> 4).toUInt32)
  fresh : state.tlsWifiOneshotPacketHeadResolve packet.byte = 0

def halves (dsflag : Bool) (state : BroadcastState) : Nat :=
  2 * (state.datacnt dsflag).toNat + if state.databitcnt dsflag = 0 then 1 else 0

structure Lost (dsflag : Bool) (smtcfg : UInt16) (count : Nat) (state : BroadcastState) : Prop where
  shaken : state.guchandshakeflag = true
  armed : state.smtcfgArray = smtcfg
  behind : state.syncnum = false ∨
    (state.databitcnt dsflag = 0 ∨ state.databitcnt dsflag = 4) ∧ state.halves dsflag ≤ count

structure Gathering (packet : Packet) (dsflag : Bool) (start : Nat → UInt8) (smtcfg : UInt16)
    (n : Nat) (state : BroadcastState) : Prop where
  shaken : state.guchandshakeflag = true
  armed : state.smtcfgArray = smtcfg
  synced : state.syncnum = true
  fresh : state.tlsWifiOneshotPacketHeadResolve packet.byte = 0
  position : (state.datacnt dsflag).toNat = n / 2
  shift : state.databitcnt dsflag = if n % 2 = 0 then 4 else 0
  gathered : state.datasave dsflag = laid start packet.byte 1 n

section Lengths

variable {smtcfg : UInt16} {value : UInt8} {state : BroadcastState}

theorem smtcfg_toNat (smtcfg : UInt16) : smtcfg.toUInt32.toNat = smtcfg.toNat := by simp

theorem length_toNat (smtcfg : UInt16) (value : UInt8) :
    (smtcfg.toUInt32 + value.toUInt32).toNat = smtcfg.toNat + value.toNat := by
  have first := smtcfg.toNat_lt
  have second := value.toNat_lt
  rw [UInt32.toNat_add, smtcfg_toNat, UInt8.toNat_toUInt32]
  omega

theorem endMark_toNat (armed : smtcfg ≠ 0) : (smtcfg.toUInt32 - 1).toNat = smtcfg.toNat - 1 := by
  have positive : 0 < smtcfg.toNat := by
    rw [Nat.pos_iff_ne_zero]
    exact fun zero => armed (UInt16.toNat_inj.mp zero)
  have least : (1 : UInt32) ≤ smtcfg.toUInt32 := by
    rw [UInt32.le_iff_toNat_le, smtcfg_toNat]
    exact positive
  rw [UInt32.toNat_sub_of_le _ _ least, smtcfg_toNat]
  rfl

theorem acceptsLength_of_bounds {frmLen : UInt32} (armed : state.smtcfgArray ≠ 0)
    (least : frmLen = state.smtcfgArray.toUInt32 - 1 ∨ state.smtcfgArray.toNat ≤ frmLen.toNat)
    (most : frmLen.toNat ≤ state.smtcfgArray.toNat + 15) : state.acceptsLength frmLen = true := by
  have some_ : state.smtcfgArray.toUInt32 ≠ 0 := by
    intro zero
    have equal := congrArg UInt32.toNat zero
    rw [smtcfg_toNat] at equal
    exact armed (UInt16.toNat_inj.mp equal)
  have top := length_toNat state.smtcfgArray 15
  have below : ¬state.smtcfgArray.toUInt32 + 15 < frmLen := by
    rw [UInt32.lt_iff_toNat_lt]
    change (state.smtcfgArray.toUInt32 + 15).toNat = state.smtcfgArray.toNat + 15 at top
    omega
  have above : state.smtcfgArray.toUInt32 ≤ frmLen ∨
      frmLen = state.smtcfgArray.toUInt32 - 1 := by
    rw [UInt32.le_iff_toNat_le, smtcfg_toNat]
    exact least.symm
  simpa [acceptsLength, some_, UInt32.not_lt.mp below] using above

theorem acceptsLength_nibble (armed : state.smtcfgArray ≠ 0) (half : value.toNat ≤ 15) :
    state.acceptsLength (state.smtcfgArray.toUInt32 + value.toUInt32) = true := by
  have length := length_toNat state.smtcfgArray value
  exact acceptsLength_of_bounds armed (.inr (by omega)) (by omega)

theorem acceptsLength_endMark (armed : state.smtcfgArray ≠ 0) :
    state.acceptsLength (state.smtcfgArray.toUInt32 - 1) = true := by
  have length := @endMark_toNat state.smtcfgArray armed
  exact acceptsLength_of_bounds armed (.inl rfl) (by omega)

theorem nibble_ne_endMark (armed : smtcfg ≠ 0) (value : UInt8) :
    smtcfg.toUInt32 + value.toUInt32 ≠ smtcfg.toUInt32 - 1 := by
  intro same
  have equal := congrArg UInt32.toNat same
  have positive : smtcfg.toNat ≠ 0 := fun zero => armed (UInt16.toNat_inj.mp zero)
  rw [length_toNat, endMark_toNat armed] at equal
  omega

theorem value_of_length (smtcfg : UInt16) (value : UInt8) :
    smtcfg.toUInt32 + value.toUInt32 - smtcfg.toUInt32 = value.toUInt32 := by
  rw [UInt32.add_comm, UInt32.add_sub_cancel]

theorem length_inj (smtcfg : UInt16) (value other : UInt8) :
    smtcfg.toUInt32 + value.toUInt32 = smtcfg.toUInt32 + other.toUInt32 ↔ value = other := by
  constructor
  · intro same
    have equal := congrArg UInt32.toNat same
    rw [length_toNat, length_toNat] at equal
    exact UInt8.toNat_inj.mp (by omega)
  · rintro rfl
    rfl

end Lengths

section Decoding

variable {host : BroadcastHost} {memory : Bool} {frame : DataFrame} {state : BroadcastState}
  {packet : Packet} {dsflag : Bool} {start : Nat → UInt8} {smtcfg : UInt16} {n : Nat}

variable (host) in
/-- What a frame of the phone is to the decoder. -/
theorem takeData_brings {length : UInt32} (brings : state.Brings dsflag length frame)
    (accepts : state.acceptsLength length = true) :
    state.takeData host frame =
      if !state.syncnum then ((state.noted frame).syncTag length dsflag, .returned)
      else if length = state.smtcfgArray.toUInt32 - 1 then
        (state.noted frame).endFragment host dsflag
      else (state.noted frame).takeNibble host length dsflag := by
  rw [takeData_eq, brings.length, accepts, brings.new, brings.direction]
  rfl

variable (host) in
theorem takeData_half {value : UInt8} (set : state.smtcfgArray = smtcfg) (armed : smtcfg ≠ 0)
    (small : value.toNat ≤ 15)
    (brings : state.Brings dsflag (smtcfg.toUInt32 + value.toUInt32) frame) :
    state.takeData host frame =
      if !state.syncnum then
        ((state.noted frame).syncTag (smtcfg.toUInt32 + value.toUInt32) dsflag, .returned)
      else (state.noted frame).takeNibble host (smtcfg.toUInt32 + value.toUInt32) dsflag := by
  subst set
  rw [takeData_brings host brings (acceptsLength_nibble armed small),
    if_neg (nibble_ne_endMark armed value)]

variable (host) in
theorem takeData_endMark (set : state.smtcfgArray = smtcfg) (armed : smtcfg ≠ 0)
    (brings : state.Brings dsflag (smtcfg.toUInt32 - 1) frame) :
    state.takeData host frame =
      if !state.syncnum then
        ((state.noted frame).syncTag (smtcfg.toUInt32 - 1) dsflag, .returned)
      else (state.noted frame).endFragment host dsflag := by
  subst set
  rw [takeData_brings host brings (acceptsLength_endMark armed), if_pos rfl]

theorem completed_brings {length : UInt32} (brings : state.Brings dsflag length frame)
    (shaken : state.guchandshakeflag = true) {after : BroadcastState} {datasave : Nat → UInt8}
    (complete : state.takeData host frame = (after, .complete datasave)) :
    state.completed host frame = some (after, datasave) := by
  rw [completed, brings.broadcast, shaken, brings.known, compareMacAddr_same brings.known, complete]
  rfl

theorem not_completed_brings {length : UInt32} (brings : state.Brings dsflag length frame)
    {after : BroadcastState} {outcome : FrameOutcome}
    (taken : state.takeData host frame = (after, outcome))
    (unfinished : ∀ datasave, outcome ≠ .complete datasave) :
    state.completed host frame = none := by
  rw [completed, compareMacAddr_same brings.known, taken]
  cases outcome with
  | complete datasave => exact absurd rfl (unfinished datasave)
  | returned => exact ite_self none
  | stored => exact ite_self none

variable (host) in
theorem not_completed_skips (skips : state.Skips frame) : state.completed host frame = none := by
  rw [completed]
  split
  next heard =>
    simp only [Bool.and_eq_true] at heard
    obtain ⟨⟨broadcast, -⟩, same⟩ := heard
    have refused := skips broadcast
    rw [takesIn_eq same] at refused
    rw [compareMacAddr_same same, takeData_eq, refused]
    rfl
  next => rfl

/-- The lengths of the three tags follow each other. -/
theorem syncTag_wanted {value : UInt8}
    (wanted : state.wantsTag (state.smtcfgArray.toUInt32 + value.toUInt32)) :
    state.syncTag (state.smtcfgArray.toUInt32 + value.toUInt32) dsflag =
      state.startTag dsflag value := by
  have zero : state.smtcfgArray.toUInt32 + (0 : UInt8).toUInt32 = state.smtcfgArray.toUInt32 :=
    UInt32.add_zero _
  have first : state.smtcfgArray.toUInt32 + value.toUInt32 = state.smtcfgArray.toUInt32 ↔
      value = 0 := by
    rw [← length_inj state.smtcfgArray value 0, zero]
  have second : state.smtcfgArray.toUInt32 + value.toUInt32 =
      state.smtcfgArray.toUInt32 + 1 ↔ value = 1 := length_inj state.smtcfgArray value 1
  have third : state.smtcfgArray.toUInt32 + value.toUInt32 =
      state.smtcfgArray.toUInt32 + 2 ↔ value = 2 := length_inj state.smtcfgArray value 2
  simp only [wantsTag, first, second, third] at wanted
  simp only [syncTag, first, second, third]
  rcases wanted with ⟨rfl, ssid⟩ | ⟨rfl, pwd⟩ | rfl
  · rw [if_pos ⟨rfl, ssid⟩]
  · rw [if_neg fun both => absurd both.1 (by decide), if_pos ⟨rfl, pwd⟩]
  · rw [if_neg fun both => absurd both.1 (by decide),
      if_neg fun both => absurd both.1 (by decide), if_pos rfl]

theorem Gathering.tag (waits : state.Waits packet dsflag) (frame : DataFrame) :
    Gathering packet dsflag (state.seeded packet dsflag) state.smtcfgArray 1
      ((state.noted frame).startTag dsflag (packet.byte 0 >>> 4)) := by
  refine ⟨waits.shaken, rfl, rfl, waits.fresh, ?_, ?_, ?_⟩
  · change (Function.update state.datacnt dsflag 0 dsflag).toNat = 0
    rw [Function.update_self]
    rfl
  · exact Function.update_self ..
  · rw [laid_nothing]
    exact Function.update_self ..

theorem nibbleAt_upper (host : BroadcastHost) (value : UInt8) :
    nibbleAt host value.toUInt32 4 = value <<< 4 := by
  have inside : (0 : Int8) ≤ 4 ∧ (4 : Int8) < 32 := by decide
  have count : (4 : Int8).toNatClampNeg.toUInt32 = 4 := by decide
  rw [nibbleAt, if_pos inside, count]
  apply UInt8.toBitVec_inj.mp
  ext bit below
  simp

theorem nibbleAt_lower (host : BroadcastHost) (value : UInt8) :
    nibbleAt host value.toUInt32 0 = value := by
  have inside : (0 : Int8) ≤ 0 ∧ (0 : Int8) < 32 := by decide
  have count : (0 : Int8).toNatClampNeg.toUInt32 = 0 := by decide
  rw [nibbleAt, if_pos inside, count]
  simp

variable (host) in
theorem Gathering.saved (gathering : Gathering packet dsflag start smtcfg n state)
    (started : 1 ≤ n) : (state.saveNibble host dsflag (nibble packet.byte n).toUInt32).datasave
      dsflag = laid start packet.byte 1 (n + 1) := by
  have half : nibbleAt host (nibble packet.byte n).toUInt32 (state.databitcnt dsflag) =
      placed packet.byte n := by
    rw [gathering.shift, placed]
    split
    · exact nibbleAt_upper host _
    · exact nibbleAt_lower host _
  have saved : (state.saveNibble host dsflag (nibble packet.byte n).toUInt32).datasave dsflag =
      Function.update (state.datasave dsflag) (state.datacnt dsflag).toNat
        (state.datasave dsflag (state.datacnt dsflag).toNat |||
          nibbleAt host (nibble packet.byte n).toUInt32 (state.databitcnt dsflag)) :=
    Function.update_self ..
  rw [saved, half, gathering.position, gathering.gathered]
  exact laid_succ started

/-- The check looks at the two bytes of the head. -/
theorem headResolve_congr {first second : Nat → UInt8} {tables : FragmentState}
    (zero : second 0 = first 0) (one : second 1 = first 1)
    (accepted : tables.tlsWifiOneshotPacketHeadResolve first = 0) :
    tables.tlsWifiOneshotPacketHeadResolve second = 0 := by
  obtain ⟨head, unseen⟩ := (headResolve_iff _ _).mp accepted
  refine (headResolve_iff _ _).mpr ⟨head.congr zero one, ?_⟩
  have tag : tagId second = tagId first := by rw [tagId, tagId, zero]
  have number : seqNum second = seqNum first := by rw [seqNum, seqNum, one]
  rw [FragmentState.received, tag, number]
  exact unseen

variable (host) in
theorem Gathering.upper (gathering : Gathering packet dsflag start smtcfg n state)
    (started : 1 ≤ n) (even : n % 2 = 0) : ∃ after,
      state.takeNibble host (smtcfg.toUInt32 + (nibble packet.byte n).toUInt32) dsflag =
        (after, .stored) ∧ Gathering packet dsflag start smtcfg (n + 1) after := by
  have whole := gathering.saved host started
  have kept := congrArg (state.saveNibble host dsflag)
    (value_of_length smtcfg (nibble packet.byte n))
  have shift : (state.saveNibble host dsflag (nibble packet.byte n).toUInt32).databitcnt dsflag =
      0 := by
    rw [saveNibble_databitcnt, Function.update_self, gathering.shift, if_pos even]
    rfl
  rw [← gathering.armed] at kept ⊢
  rcases takeNibble_cases kept rfl with ⟨-, taken⟩ | ⟨lower, -⟩
  · refine ⟨_, taken, gathering.shaken, rfl, gathering.synced, gathering.fresh, ?_, ?_, whole⟩
    · rw [saveNibble_datacnt, gathering.position]
      omega
    · rw [shift, if_neg (by omega)]
  · rw [shift] at lower
    exact absurd lower (by decide)

variable (host) in
/-- A lower half, with which a byte is there. The head is refused only where it is not that of the
packet. -/
theorem Gathering.lower (gathering : Gathering packet dsflag start smtcfg n state)
    (started : 1 ≤ n) (odd : n % 2 = 1) (inside : n + 1 ≤ 14) : ∃ after outcome,
      state.takeNibble host (smtcfg.toUInt32 + (nibble packet.byte n).toUInt32) dsflag =
        (after, outcome) ∧
      (n + 1 = 14 ∧ outcome = .complete (laid start packet.byte 1 14) ∨
        n + 1 < 14 ∧ outcome = .stored ∧ Gathering packet dsflag start smtcfg (n + 1) after ∨
        n + 1 = 4 ∧ outcome = .stored ∧ ¬packet.Covers start ∧ Lost dsflag smtcfg 0 after) := by
  have size := packet.size
  have whole := gathering.saved host started
  have kept := congrArg (state.saveNibble host dsflag)
    (value_of_length smtcfg (nibble packet.byte n))
  have shift : (state.saveNibble host dsflag (nibble packet.byte n).toUInt32).databitcnt dsflag =
      -4 := by
    rw [saveNibble_databitcnt, Function.update_self, gathering.shift, if_neg (by omega)]
    rfl
  have count : ((state.saveNibble host dsflag (nibble packet.byte n).toUInt32).datacnt
      dsflag).toNat = n / 2 := gathering.position
  have next := @nextByte_count (state.saveNibble host dsflag (nibble packet.byte n).toUInt32) dsflag
    (by omega)
  rw [← gathering.armed] at kept ⊢
  rcases takeNibble_cases kept rfl with ⟨upper, -⟩ |
    ⟨-, ⟨two, refused, taken⟩ | ⟨seven, taken⟩ | ⟨-, unfinished, taken⟩⟩
  · rw [shift] at upper
    exact absurd (by decide) upper
  · rw [two, count] at next
    change 2 = n / 2 + 1 at next
    have four : n + 1 = 4 := by omega
    refine ⟨_, _, taken, .inr (.inr ⟨four, rfl, fun covers => refused ?_, gathering.shaken, rfl,
      .inl rfl⟩)⟩
    refine headResolve_congr ?_ ?_ gathering.fresh
    · exact (congrFun whole 0).trans (covers.laid (by omega) (by omega))
    · exact (congrFun whole 1).trans (covers.laid (by omega) (by omega))
  · rw [seven, count] at next
    change 7 = n / 2 + 1 at next
    have last : n + 1 = 14 := by omega
    rw [last] at whole
    exact ⟨_, _, taken, .inl ⟨last, congrArg FrameOutcome.complete whole⟩⟩
  · have apart : n / 2 + 1 ≠ 7 := by
      rw [← count, ← next]
      exact fun seven => unfinished (UInt8.toNat_inj.mp seven)
    refine ⟨_, _, taken, .inr (.inl ⟨by omega, rfl, gathering.shaken, rfl, gathering.synced,
      gathering.fresh, ?_, ?_, whole⟩)⟩
    · rw [next, count]
      omega
    · rw [if_pos (by omega)]
      exact Function.update_self ..

/-- What was laid over the buffer by the whole packet. -/
theorem laid_packet (start : Nat → UInt8) {index : Nat} (inside : index < packet.bytes.length) :
    laid start packet.byte 1 (2 * packet.bytes.length) index =
      start index ||| if index = 0 then packet.byte 0 &&& 0xF else packet.byte index := by
  by_cases first : index = 0
  · subst first
    rw [if_pos rfl]
    exact laid_lower (by omega)
  · rw [if_neg first]
    exact laid_byte (by omega) (by omega)

theorem toList_laid_iff {datasave : Nat → UInt8} (same : ∀ index < packet.bytes.length,
      datasave index = laid start packet.byte 1 (2 * packet.bytes.length) index) :
    Buffer.toList datasave packet.bytes.length = packet.bytes ↔ packet.Covers start := by
  have bytes : Buffer.toList packet.byte packet.bytes.length = packet.bytes :=
    Buffer.toList_getD packet.bytes 0
  conv_lhs => rw [← bytes]
  rw [Buffer.toList_length, Buffer.toList_inj, Packet.Covers]
  refine forall_congr' fun index => forall_congr' fun inside => ?_
  rw [same index inside, laid_packet start inside]

variable (host) in
/-- The end mark behind the last half byte. A packet is dropped only if its length has changed. -/
theorem Gathering.ends (gathering : Gathering packet dsflag start smtcfg
      (2 * packet.bytes.length) state) (fits : packet.bytes.length < 7) : ∃ after outcome,
      state.endFragment host dsflag = (after, outcome) ∧
      ((∃ datasave, outcome = .complete datasave ∧ ∀ index < packet.bytes.length,
          datasave index = laid start packet.byte 1 (2 * packet.bytes.length) index) ∨
        outcome = .returned ∧ ¬packet.Covers start) := by
  have size := packet.size
  have position : (state.datacnt dsflag).toNat = packet.bytes.length := by
    rw [gathering.position]
    omega
  rcases @endFragment_cases host state dsflag _ rfl with ⟨short, dropped⟩ | ⟨-, passed⟩
  · refine ⟨_, _, dropped, .inr ⟨rfl, fun covers => ?_⟩⟩
    have length := @Packet.Covers.laid packet start covers (2 * packet.bytes.length) 1 (by omega)
      (by omega)
    rw [saveNibble_short, Short, gathering.gathered, length, UInt8.lt_iff_toNat_lt,
      UInt8.lt_iff_toNat_lt, position, UInt8.toNat_add] at short
    change _ < 3 ∨ _ < ((packet.bytes.getD 1 0 &&& 0xF).toNat + 3) % 256 at short
    omega
  · refine ⟨_, _, passed, .inl ⟨_, rfl, fun index inside => ?_⟩⟩
    have apart : index ≠ (state.datacnt dsflag).toNat := by omega
    rw [← gathering.gathered]
    simp [saveNibble, apart]

structure Alike (before after : BroadcastState) : Prop where
  shaken : after.guchandshakeflag = before.guchandshakeflag
  ssid : after.gucssidokflag = before.gucssidokflag
  pwd : after.gucpwdokflag = before.gucpwdokflag
  smtcfgArray : after.smtcfgArray = before.smtcfgArray
  syncnum : after.syncnum = before.syncnum
  datacnt : after.datacnt = before.datacnt
  databitcnt : after.databitcnt = before.databitcnt
  datasave : after.datasave = before.datasave
  tagRecved : after.tagRecved = before.tagRecved

theorem connectIfComplete_alike (state : BroadcastState) :
    Alike state (state.onLsd LsdState.connectIfComplete) := by
  have flags : (LsdState.connectIfComplete state.toLsdState).guchandshakeflag =
        state.guchandshakeflag ∧
      (LsdState.connectIfComplete state.toLsdState).gucssidokflag = state.gucssidokflag ∧
      (LsdState.connectIfComplete state.toLsdState).gucpwdokflag = state.gucpwdokflag := by
    rw [LsdState.connectIfComplete]
    split
    · split
      · exact ⟨rfl, rfl, rfl⟩
      · split <;> exact ⟨rfl, rfl, rfl⟩
    · exact ⟨rfl, rfl, rfl⟩
  exact ⟨flags.1, flags.2.1, flags.2.2, rfl, rfl, rfl, rfl, rfl, rfl⟩

theorem compareMacAddr_alike (macaddr : EtherAddr) (state : BroadcastState) :
    Alike state (state.compareMacAddr macaddr).2 := by
  have flags : (state.toLsdState.compareMacAddr macaddr).2.guchandshakeflag =
        state.guchandshakeflag ∧
      (state.toLsdState.compareMacAddr macaddr).2.gucssidokflag = state.gucssidokflag ∧
      (state.toLsdState.compareMacAddr macaddr).2.gucpwdokflag = state.gucpwdokflag := by
    rw [LsdState.compareMacAddr]
    split <;> exact ⟨rfl, rfl, rfl⟩
  exact ⟨flags.1, flags.2.1, flags.2.2, rfl, rfl, rfl, rfl, rfl, rfl⟩

theorem Alike.trans {first second third : BroadcastState} (one : Alike first second)
    (two : Alike second third) : Alike first third :=
  ⟨two.1.trans one.1, two.2.trans one.2, two.3.trans one.3, two.4.trans one.4, two.5.trans one.5,
    two.6.trans one.6, two.7.trans one.7, two.8.trans one.8, two.9.trans one.9⟩

variable (host) in
theorem skips_alike (memory : Bool) (skips : state.Skips frame)
    (shaken : state.guchandshakeflag = true) :
    Alike state (state.tlsWifiLsdBroadcast host memory frame) := by
  have still : Alike state state := ⟨rfl, rfl, rfl, rfl, rfl, rfl, rfl, rfl, rfl⟩
  by_cases broadcast : frame.hdr.getDA.isBroadcast = true
  · have refused := skips broadcast
    cases same : (state.compareMacAddr frame.hdr.getSA).1 with
    | true =>
        rw [takesIn_eq same] at refused
        rw [tlsWifiLsdBroadcast_known broadcast shaken same, takeData_eq, refused]
        exact still
    | false =>
        rw [tlsWifiLsdBroadcast_stranger broadcast shaken same]
        exact (compareMacAddr_alike _ state).trans (connectIfComplete_alike _)
  · rw [tlsWifiLsdBroadcast, if_neg broadcast]
    exact still

theorem headResolve_alike {before after : BroadcastState} (alike : Alike before after)
    {datasave : Nat → UInt8} (fresh : before.tlsWifiOneshotPacketHeadResolve datasave = 0) :
    after.tlsWifiOneshotPacketHeadResolve datasave = 0 := by
  obtain ⟨head, unseen⟩ := (headResolve_iff _ _).mp fresh
  refine (headResolve_iff _ _).mpr ⟨head, ?_⟩
  rw [FragmentState.received, alike.tagRecved]
  exact unseen

theorem Gathering.alike (gathering : Gathering packet dsflag start smtcfg n state)
    {after : BroadcastState} (alike : Alike state after) :
    Gathering packet dsflag start smtcfg n after := by
  refine ⟨alike.shaken.trans gathering.shaken, alike.smtcfgArray.trans gathering.armed,
    alike.syncnum.trans gathering.synced, headResolve_alike alike gathering.fresh, ?_, ?_, ?_⟩
  · rw [alike.datacnt]
    exact gathering.position
  · rw [alike.databitcnt]
    exact gathering.shift
  · rw [alike.datasave]
    exact gathering.gathered

theorem Waits.alike (waits : state.Waits packet dsflag) {after : BroadcastState}
    (alike : Alike state after) : after.Waits packet dsflag := by
  have wanted := waits.wanted
  rw [wantsTag] at wanted
  refine ⟨alike.shaken.trans waits.shaken, ?_, alike.syncnum.trans waits.between, ?_,
    headResolve_alike alike waits.fresh⟩
  · rw [alike.smtcfgArray]
    exact waits.armed
  · rw [wantsTag, alike.smtcfgArray, alike.ssid, alike.pwd]
    exact wanted

theorem Lost.alike {count : Nat} (lost : Lost dsflag smtcfg count state) {after : BroadcastState}
    (alike : Alike state after) : Lost dsflag smtcfg count after := by
  refine ⟨alike.shaken.trans lost.shaken, alike.smtcfgArray.trans lost.armed, ?_⟩
  rw [alike.syncnum, alike.databitcnt, halves, alike.datacnt, alike.databitcnt]
  exact lost.behind

/-! What is passed on, frame by frame. -/

theorem passes_cons_iff {rest : List (Bool × DataFrame)}
    (nothing : state.completed host frame = none) :
    Passes host packet ((memory, frame) :: rest) state ↔
      Passes host packet rest (state.tlsWifiLsdBroadcast host memory frame) := by
  constructor
  · rintro ⟨before, last, ends, later, after, datasave, split, complete, bytes⟩
    cases before with
    | nil =>
        cases split
        rw [hearAll, List.foldl_nil, nothing] at complete
        cases complete
    | cons first before =>
        obtain ⟨rfl, remains⟩ := List.cons.inj split
        exact ⟨before, last, ends, later, after, datasave, remains, complete, bytes⟩
  · rintro ⟨before, last, ends, later, after, datasave, split, complete, bytes⟩
    exact ⟨(memory, frame) :: before, last, ends, later, after, datasave,
      congrArg ((memory, frame) :: ·) split, complete, bytes⟩

/-- Behind the last frame of a packet nothing is passed on. -/
theorem not_passes_of_done {frames : List (Bool × DataFrame)}
    (sends : Sends host dsflag frames [] state) : ¬Passes host packet frames state := by
  induction frames generalizing state with
  | nil =>
      rintro ⟨before, last, ends, later, after, datasave, split, -⟩
      cases before <;> cases split
  | cons heard rest ih =>
      obtain ⟨memory, frame⟩ := heard
      rw [Sends] at sends
      rcases sends with ⟨skips, later⟩ | ⟨length, lengths, next, -⟩
      · rw [passes_cons_iff (not_completed_skips host skips)]
        exact ih later
      · cases next

theorem passes_last_iff {rest : List (Bool × DataFrame)} {after : BroadcastState}
    {datasave : Nat → UInt8} (complete : state.completed host frame = some (after, datasave))
    (done : Sends host dsflag rest [] (state.tlsWifiLsdBroadcast host memory frame)) :
    Passes host packet ((memory, frame) :: rest) state ↔
      Buffer.toList datasave packet.bytes.length = packet.bytes := by
  constructor
  · rintro ⟨before, last, ends, later, other, passed, split, completes, bytes⟩
    cases before with
    | nil =>
        cases split
        rw [hearAll, List.foldl_nil, complete] at completes
        cases completes
        exact bytes
    | cons first before =>
        obtain ⟨rfl, remains⟩ := List.cons.inj split
        exact absurd ⟨before, last, ends, later, other, passed, remains, completes, bytes⟩
          (not_passes_of_done done)
  · intro bytes
    exact ⟨[], memory, frame, rest, after, datasave, rfl, complete, bytes⟩

/-- A frame of the phone that completes nothing, and what it leaves. -/
theorem stored_brings {length : UInt32} (brings : state.Brings dsflag length frame)
    (shaken : state.guchandshakeflag = true) {after : BroadcastState}
    (taken : state.takeData host frame = (after, .stored)) :
    state.completed host frame = none ∧
      Alike after (state.tlsWifiLsdBroadcast host memory frame) := by
  refine ⟨not_completed_brings brings taken fun _ => by nofun, ?_⟩
  rw [tlsWifiLsdBroadcast_known brings.broadcast shaken brings.known, taken]
  exact connectIfComplete_alike after

theorem returned_brings {length : UInt32} (brings : state.Brings dsflag length frame)
    (shaken : state.guchandshakeflag = true) {after : BroadcastState}
    (taken : state.takeData host frame = (after, .returned)) :
    state.completed host frame = none ∧ state.tlsWifiLsdBroadcast host memory frame = after := by
  refine ⟨not_completed_brings brings taken fun _ => by nofun, ?_⟩
  rw [tlsWifiLsdBroadcast_known brings.broadcast shaken brings.known, taken]
  rfl

theorem Gathering.noted (gathering : Gathering packet dsflag start smtcfg n state)
    (frame : DataFrame) : Gathering packet dsflag start smtcfg n (state.noted frame) :=
  ⟨gathering.shaken, gathering.armed, gathering.synced, gathering.fresh, gathering.position,
    gathering.shift, gathering.gathered⟩

variable (host memory) in
theorem Gathering.half (gathering : Gathering packet dsflag start smtcfg n state)
    (armed : smtcfg ≠ 0) (started : 1 ≤ n) (inside : n + 1 ≤ 14)
    (brings : state.Brings dsflag (smtcfg.toUInt32 + (nibble packet.byte n).toUInt32) frame) :
    n + 1 = 14 ∧ (∃ after, state.completed host frame =
        some (after, laid start packet.byte 1 14)) ∨
      state.completed host frame = none ∧
        (n + 1 < 14 ∧ Gathering packet dsflag start smtcfg (n + 1)
            (state.tlsWifiLsdBroadcast host memory frame) ∨
          n + 1 = 4 ∧ ¬packet.Covers start ∧
            Lost dsflag smtcfg 0 (state.tlsWifiLsdBroadcast host memory frame)) := by
  have taken := takeData_half host gathering.armed armed (nibble_le _ _) brings
  rw [gathering.synced] at taken
  by_cases even : n % 2 = 0
  · obtain ⟨after, stored, gathers⟩ := (gathering.noted frame).upper host started even
    obtain ⟨nothing, alike⟩ := @stored_brings host memory frame state dsflag _ brings
      gathering.shaken after (taken.trans stored)
    exact .inr ⟨nothing, .inl ⟨by omega, gathers.alike alike⟩⟩
  · obtain ⟨after, outcome, result, ends⟩ :=
      (gathering.noted frame).lower host started (by omega) inside
    have taken := taken.trans result
    rcases ends with ⟨last, rfl⟩ | ⟨unfinished, rfl, gathers⟩ | ⟨four, rfl, uncovered, lost⟩
    · exact .inl ⟨last, after, completed_brings brings gathering.shaken taken⟩
    · obtain ⟨nothing, alike⟩ := @stored_brings host memory frame state dsflag _ brings
        gathering.shaken after taken
      exact .inr ⟨nothing, .inl ⟨unfinished, gathers.alike alike⟩⟩
    · obtain ⟨nothing, alike⟩ := @stored_brings host memory frame state dsflag _ brings
        gathering.shaken after taken
      exact .inr ⟨nothing, .inr ⟨four, uncovered, lost.alike alike⟩⟩

/-- The end mark is the last frame of a packet that is shorter than the buffer. -/
theorem Gathering.passes_endMark_iff {rest : List (Bool × DataFrame)}
    (gathering : Gathering packet dsflag start smtcfg (2 * packet.bytes.length) state)
    (armed : smtcfg ≠ 0) (short : packet.bytes.length < 7)
    (brings : state.Brings dsflag (smtcfg.toUInt32 - 1) frame)
    (done : Sends host dsflag rest [] (state.tlsWifiLsdBroadcast host memory frame)) :
    Passes host packet ((memory, frame) :: rest) state ↔ packet.Covers start := by
  have taken := takeData_endMark host gathering.armed armed brings
  rw [gathering.synced] at taken
  obtain ⟨after, outcome, result, ends⟩ := (gathering.noted frame).ends host short
  have ended := taken.trans result
  rcases ends with ⟨datasave, rfl, same⟩ | ⟨rfl, uncovered⟩
  · rw [passes_last_iff (completed_brings brings gathering.shaken ended) done]
    exact toList_laid_iff same
  · rw [passes_cons_iff (not_completed_brings brings ended fun _ => by nofun)]
    exact iff_of_false (not_passes_of_done done) uncovered

/-- A tag in the rest of a lost packet begins with the first half. -/
theorem Lost.syncTag {count : Nat} (lost : Lost dsflag smtcfg count state)
    (between : state.syncnum = false) (frmLen : UInt32) :
    Lost dsflag smtcfg (count + 1) (state.syncTag frmLen dsflag) := by
  have tag (value : UInt8) : Lost dsflag smtcfg (count + 1) (state.startTag dsflag value) := by
    refine ⟨lost.shaken, lost.armed, .inr ⟨.inl (Function.update_self ..), ?_⟩⟩
    have position : (state.startTag dsflag value).datacnt dsflag = 0 := Function.update_self ..
    have shift : (state.startTag dsflag value).databitcnt dsflag = 0 := Function.update_self ..
    rw [halves, position, shift]
    exact Nat.le_add_left 1 count
  rw [BroadcastState.syncTag]
  split
  · exact tag 0
  · split
    · exact tag 1
    · split
      · exact tag 2
      · exact ⟨lost.shaken, lost.armed, .inl between⟩

variable (host) in
/-- A half byte of what is lost is one more in the buffer, which it does not fill. -/
theorem Lost.takeNibble {count : Nat} (lost : Lost dsflag smtcfg count state)
    (synced : state.syncnum = true) (few : count < 13) (frmLen : UInt32) : ∃ after,
      state.takeNibble host frmLen dsflag = (after, .stored) ∧
        Lost dsflag smtcfg (count + 1) after := by
  obtain ⟨half, most⟩ := lost.behind.resolve_left (by rw [synced]; nofun)
  rw [halves] at most
  have shift : (state.saveNibble host dsflag (frmLen - state.smtcfgArray.toUInt32)).databitcnt
      dsflag = state.databitcnt dsflag - 4 := Function.update_self ..
  have cases_ := @takeNibble_cases host state frmLen dsflag _ _ rfl rfl
  generalize kept : state.saveNibble host dsflag (frmLen - state.smtcfgArray.toUInt32) = saved
    at cases_ shift
  have count_ : saved.datacnt dsflag = state.datacnt dsflag := by rw [← kept]; rfl
  have shaken : saved.guchandshakeflag = true := by rw [← kept]; exact lost.shaken
  have armed : saved.smtcfgArray = smtcfg := by rw [← kept]; exact lost.armed
  rcases half with low | high
  · rw [low] at shift
    rw [low, if_pos rfl] at most
    have next := @nextByte_count saved dsflag (by rw [count_]; omega)
    have position : (saved.nextByte dsflag).halves dsflag =
        2 * ((saved.nextByte dsflag).datacnt dsflag).toNat := by
      have upper : (saved.nextByte dsflag).databitcnt dsflag = 4 := Function.update_self ..
      rw [halves, upper]
      rfl
    rw [count_] at next
    rcases cases_ with ⟨upper, -⟩ | ⟨-, ⟨-, -, taken⟩ | ⟨seven, -⟩ | ⟨-, -, taken⟩⟩
    · rw [shift] at upper
      exact absurd (by decide) upper
    · exact ⟨_, taken, shaken, armed, .inl rfl⟩
    · rw [seven] at next
      change 7 = _ at next
      omega
    · exact ⟨_, taken, shaken, armed, .inr ⟨.inr (Function.update_self ..), by omega⟩⟩
  · rw [high] at shift
    change saved.databitcnt dsflag = 0 at shift
    rw [high] at most
    change 2 * (state.datacnt dsflag).toNat ≤ count at most
    rcases cases_ with ⟨-, taken⟩ | ⟨lower, -⟩
    · refine ⟨_, taken, shaken, armed, .inr ⟨.inl shift, ?_⟩⟩
      rw [halves, shift, count_, if_pos rfl]
      omega
    · rw [shift] at lower
      exact absurd lower (by decide)

variable (host memory) in
theorem Lost.half {count : Nat} {value : UInt8} (lost : Lost dsflag smtcfg count state)
    (armed : smtcfg ≠ 0) (small : value.toNat ≤ 15) (few : count < 13)
    (brings : state.Brings dsflag (smtcfg.toUInt32 + value.toUInt32) frame) :
    state.completed host frame = none ∧
      Lost dsflag smtcfg (count + 1) (state.tlsWifiLsdBroadcast host memory frame) := by
  have noted : Lost dsflag smtcfg count (state.noted frame) :=
    ⟨lost.shaken, lost.armed, lost.behind⟩
  have taken := takeData_half host lost.armed armed small brings
  cases synced : state.syncnum with
  | false =>
      rw [synced] at taken
      obtain ⟨nothing, after⟩ := @returned_brings host memory frame state dsflag _ brings
        lost.shaken _ taken
      rw [after]
      exact ⟨nothing, noted.syncTag synced _⟩
  | true =>
      rw [synced] at taken
      obtain ⟨after, stored, still⟩ := noted.takeNibble host synced few
        (smtcfg.toUInt32 + value.toUInt32)
      obtain ⟨nothing, alike⟩ := @stored_brings host memory frame state dsflag _ brings
        lost.shaken after (taken.trans stored)
      exact ⟨nothing, still.alike alike⟩

/-- The end mark of a lost packet comes before as many bytes as the packet has. -/
theorem Lost.ends {count : Nat} (lost : Lost dsflag smtcfg count state) (armed : smtcfg ≠ 0)
    (few : count < 2 * packet.bytes.length)
    (brings : state.Brings dsflag (smtcfg.toUInt32 - 1) frame) {after : BroadcastState}
    {datasave : Nat → UInt8} (complete : state.completed host frame = some (after, datasave)) :
    Buffer.toList datasave packet.bytes.length ≠ packet.bytes := by
  have size := packet.size
  have taken := takeData_endMark host lost.armed armed brings
  cases synced : state.syncnum with
  | false =>
      rw [synced] at taken
      rw [not_completed_brings brings taken fun _ => by nofun] at complete
      cases complete
  | true =>
      obtain ⟨-, most⟩ := lost.behind.resolve_left (by rw [synced]; nofun)
      rw [synced] at taken
      rcases @endFragment_cases host (state.noted frame) dsflag _ rfl with
        ⟨-, dropped⟩ | ⟨whole, passed⟩
      · have returned := taken.trans dropped
        rw [not_completed_brings brings returned fun _ => by nofun] at complete
        cases complete
      · rw [completed_brings brings lost.shaken (taken.trans passed)] at complete
        cases complete
        intro bytes
        have cells := Buffer.toList_inj.mp (bytes.trans (Buffer.toList_getD packet.bytes 0).symm)
        apply whole
        refine .inr ?_
        rw [cells 1 (by omega), saveNibble_datacnt, UInt8.lt_iff_toNat_lt, UInt8.toNat_add]
        change (state.datacnt dsflag).toNat < ((packet.bytes.getD 1 0 &&& 0xF).toNat + 3) % 256
        rw [halves] at most
        change 2 * (state.datacnt dsflag).toNat + _ ≤ count at most
        have head : (packet.bytes.getD 1 0 &&& 0xF).toNat ≤ 0xF := Nat.and_le_right
        omega

/-- Nothing that begins with its bytes is passed on of a lost packet: too little is left of it. -/
theorem Lost.not_passes {count : Nat} (frames : List (Bool × DataFrame))
    (lost : Lost dsflag smtcfg count state) (armed : smtcfg ≠ 0)
    (fits : packet.bytes.length ≤ 7) (behind : count + 4 ≤ n)
    (inside : n ≤ 2 * packet.bytes.length)
    (sends : Sends host dsflag frames (packet.remaining smtcfg.toUInt32 n) state) :
    ¬Passes host packet frames state := by
  induction frames generalizing state n count with
  | nil =>
      rintro ⟨before, last, ends, later, after, datasave, split, -⟩
      cases before <;> cases split
  | cons heard rest ih =>
      obtain ⟨memory, frame⟩ := heard
      rw [Sends] at sends
      rcases sends with ⟨skips, later⟩ | ⟨length, lengths, next, brings, later⟩
      · rw [passes_cons_iff (not_completed_skips host skips)]
        exact ih (lost.alike (skips_alike host memory skips lost.shaken)) behind inside later
      · by_cases more : n < 2 * packet.bytes.length
        · rw [Packet.remaining_half more] at next
          obtain ⟨rfl, rfl⟩ := List.cons.inj next
          obtain ⟨nothing, still⟩ := lost.half host memory armed (nibble_le _ _) (by omega) brings
          rw [passes_cons_iff nothing]
          exact ih still (by omega) (by omega) later
        · have done : n = 2 * packet.bytes.length := by omega
          subst done
          rw [Packet.remaining_done] at next
          by_cases short : packet.bytes.length < 7
          · rw [if_pos short] at next
            obtain ⟨rfl, rfl⟩ := List.cons.inj next
            cases complete : state.completed host frame with
            | none =>
                rw [passes_cons_iff complete]
                exact not_passes_of_done later
            | some result =>
                rw [passes_last_iff complete later]
                exact lost.ends armed (by omega) brings complete
          · rw [if_neg short] at next
            cases next

/-- The induction over what is heard, from any half byte on. -/
theorem Gathering.passes_iff (frames : List (Bool × DataFrame))
    (gathering : Gathering packet dsflag start smtcfg n state) (armed : smtcfg ≠ 0)
    (fits : packet.bytes.length ≤ 7) (started : 1 ≤ n) (inside : n ≤ 2 * packet.bytes.length)
    (unfinished : n < 14)
    (sends : Sends host dsflag frames (packet.remaining smtcfg.toUInt32 n) state) :
    Passes host packet frames state ↔ packet.Covers start := by
  induction frames generalizing state n with
  | nil =>
      rw [Sends] at sends
      by_cases more : n < 2 * packet.bytes.length
      · rw [Packet.remaining_half more] at sends
        cases sends
      · have done : n = 2 * packet.bytes.length := by omega
        rw [done, Packet.remaining_done, if_pos (by omega)] at sends
        cases sends
  | cons heard rest ih =>
      obtain ⟨memory, frame⟩ := heard
      rw [Sends] at sends
      rcases sends with ⟨skips, later⟩ | ⟨length, lengths, next, brings, later⟩
      · rw [passes_cons_iff (not_completed_skips host skips)]
        have alike := skips_alike host memory skips gathering.shaken
        exact ih (gathering.alike alike) started inside unfinished later
      · by_cases more : n < 2 * packet.bytes.length
        · rw [Packet.remaining_half more] at next
          obtain ⟨rfl, rfl⟩ := List.cons.inj next
          rcases gathering.half host memory armed started (by omega) brings with
            ⟨last, after, complete⟩ | ⟨nothing, ⟨more_, gathers⟩ | ⟨four, uncovered, lost⟩⟩
          · have seven : 2 * packet.bytes.length = 14 := by omega
            rw [last, ← seven, Packet.remaining_done, if_neg (by omega)] at later
            rw [passes_last_iff complete later]
            refine toList_laid_iff fun index _ => ?_
            rw [seven]
          · rw [passes_cons_iff nothing]
            exact ih gathers (by omega) (by omega) more_ later
          · rw [passes_cons_iff nothing]
            refine iff_of_false ?_ uncovered
            exact lost.not_passes rest armed fits (by omega) (by omega) later
        · have done : n = 2 * packet.bytes.length := by omega
          subst done
          have short : packet.bytes.length < 7 := by omega
          rw [Packet.remaining_done, if_pos short] at next
          obtain ⟨rfl, rfl⟩ := List.cons.inj next
          exact gathering.passes_endMark_iff armed short brings later

/-- A packet that is heard without a gap is passed on as it was sent if and only if nothing of
another one shows through. -/
theorem Waits.passes_iff (waits : state.Waits packet dsflag) (frames : List (Bool × DataFrame))
    (sends : Sends host dsflag frames (packet.remaining state.smtcfgArray.toUInt32 0) state) :
    Passes host packet frames state ↔ packet.Covers (state.seeded packet dsflag) := by
  have size := packet.size
  induction frames generalizing state with
  | nil =>
      rw [Sends, Packet.remaining_half (by omega)] at sends
      cases sends
  | cons heard rest ih =>
      obtain ⟨memory, frame⟩ := heard
      rw [Sends] at sends
      rcases sends with ⟨skips, later⟩ | ⟨length, lengths, next, brings, later⟩
      · have alike := skips_alike host memory skips waits.shaken
        have seeds : (state.tlsWifiLsdBroadcast host memory frame).seeded packet dsflag =
            state.seeded packet dsflag := by
          rw [seeded, alike.datasave, alike.datacnt]
          rfl
        rw [passes_cons_iff (not_completed_skips host skips), ← seeds]
        rw [← alike.smtcfgArray] at later
        exact ih (waits.alike alike) later
      · rw [Packet.remaining_half (by omega)] at next
        obtain ⟨rfl, rfl⟩ := List.cons.inj next
        have taken := takeData_brings host brings
          (acceptsLength_nibble waits.armed (nibble_le _ _))
        have started : (state.noted frame).syncTag
            (state.smtcfgArray.toUInt32 + (nibble packet.byte 0).toUInt32) dsflag =
              (state.noted frame).startTag dsflag (packet.byte 0 >>> 4) :=
          @syncTag_wanted (state.noted frame) dsflag _ waits.wanted
        rw [waits.between, started] at taken
        obtain ⟨nothing, after⟩ := @returned_brings host memory frame state dsflag _ brings
          waits.shaken _ taken
        have fits : packet.bytes.length ≤ 7 := by
          have short := ((headResolve_iff _ _).mp waits.fresh).1.short
          rw [size]
          exact Nat.add_le_add_right short 3
        rw [passes_cons_iff nothing]
        rw [after] at later ⊢
        exact (Gathering.tag waits frame).passes_iff rest waits.armed fits (Nat.le_refl 1)
          (by omega) (by decide) later

end Decoding

end BroadcastState

/-- The decoder over every run: positions stay in the buffer; half bytes are stored with one of the
two shifts if and only if none comes in a direction that is cut off; and a packet that is heard
without a gap is passed on with its bytes if and only if nothing of another one shows through. -/
theorem broadcast_decoder_iff (host : BroadcastHost) (events : List ProvisionEvent) :
    (∀ before after, events = before ++ after → ∀ dsflag,
      (before.foldl (BroadcastState.provision host) .boot).datacnt dsflag < 7) ∧
    (Runs.Along (NibbleWatch.step host) (NibbleWatch.StoresWell host) .boot events ↔
      Runs.Along (NibbleWatch.step host) (NibbleWatch.Whole host) .boot events) ∧
    ∀ packet dsflag frames,
      let state := events.foldl (BroadcastState.provision host) .boot
      state.Waits packet dsflag →
        BroadcastState.Sends host dsflag frames
          (packet.remaining state.smtcfgArray.toUInt32 0) state →
        (BroadcastState.Passes host packet frames state ↔
          packet.Covers (state.seeded packet dsflag)) := by
  refine ⟨?_, NibbleWatch.storesWell_along_iff host events, ?_⟩
  · intro before _ _ dsflag
    exact BroadcastState.datacnt_lt host before dsflag
  · intro packet dsflag frames state waits sends
    exact waits.passes_iff frames sends

def phoneFrame (tods : Bool) (length : UInt32) : DataFrame where
  hdr :=
    { frameControl := if tods then 0x0108 else 0x0208
      addr1 := ⟨0xFF, 0xFF, 0xFF, 0xFF, 0xFF, 0xFF⟩
      addr2 := ⟨2, 0, 0, 0, 0, 1⟩
      addr3 := if tods then ⟨0xFF, 0xFF, 0xFF, 0xFF, 0xFF, 0xFF⟩ else ⟨2, 0, 0, 0, 0, 1⟩
      seqCtrl := 0
      addr4 := .zero }
  body := fun _ => 0
  dataLen := length

def heardFrame (tods : Bool) (length : UInt32) : ProvisionEvent :=
  .frame true (phoneFrame tods length)

def handshaken : List ProvisionEvent := .start none :: List.replicate 9 (heardFrame true 61)

def emptyPacket : Packet := ⟨[0x20, 0x00, 0x2A], by decide⟩

def emptyFrames : List (Bool × DataFrame) :=
  [64, 62, 62, 62, 64, 72, 61].map fun length => (true, phoneFrame true length)

theorem emptyPacket_passes : BroadcastState.Passes BroadcastState.sampleHost emptyPacket emptyFrames
    (handshaken.foldl (BroadcastState.provision BroadcastState.sampleHost) .boot) := by
  refine ((broadcast_decoder_iff BroadcastState.sampleHost handshaken).2.2 emptyPacket true
    emptyFrames ?_ ?_).mpr ?_
  · exact ⟨by decide +kernel, by decide +kernel, by decide +kernel, by decide +kernel,
      by decide +kernel⟩
  · have brings (length : UInt32) (state : BroadcastState)
        (known : (state.compareMacAddr (phoneFrame true length).hdr.getSA).1 = true) :
        state.Brings true length (phoneFrame true length) := by
      have header : (phoneFrame true length).hdr = (phoneFrame true 0).hdr := rfl
      have bits : (phoneFrame true 0).hdr.getDA.isBroadcast = true ∧
          (phoneFrame true 0).hdr.hasTods = true ∧ (phoneFrame true 0).hdr.isDataQos = false ∧
          (phoneFrame true 0).hdr.hasRetry = false := by decide +kernel
      rw [← header] at bits
      refine ⟨bits.1, known, bits.2.1, ?_, ?_⟩
      · rw [DataFrame.frmLen, bits.2.2.1]
        rfl
      · rw [BroadcastState.repeats, bits.2.2.2, Bool.false_and]
    refine .inr ⟨_, _, rfl, brings 64 _ (by decide +kernel), ?_⟩
    refine .inr ⟨_, _, rfl, brings 62 _ (by decide +kernel), ?_⟩
    refine .inr ⟨_, _, rfl, brings 62 _ (by decide +kernel), ?_⟩
    refine .inr ⟨_, _, rfl, brings 62 _ (by decide +kernel), ?_⟩
    refine .inr ⟨_, _, rfl, brings 64 _ (by decide +kernel), ?_⟩
    refine .inr ⟨_, _, rfl, brings 72 _ (by decide +kernel), ?_⟩
    exact .inr ⟨_, _, rfl, brings 61 _ (by decide +kernel), rfl⟩
  · change ∀ index < 3, _
    decide +kernel

/-- A tag on the way to the access point whose fragment ends at once, a tag on the way back, and
then a half byte on the way there. -/
def cutFragment : List ProvisionEvent :=
  handshaken ++ [heardFrame true 64, heardFrame true 61, heardFrame false 64]

def brokenOff : List ProvisionEvent :=
  handshaken ++ [heardFrame true 64, heardFrame true 62, heardFrame true 77, .stop] ++ handshaken

/-- The half byte is shifted by -4. And what broke off shows through the next fragment in the same
direction: its second byte has bits before it comes, and nothing is passed on. -/
theorem cutFragment_shifts_back :
    ¬(∀ host events, Runs.Along (NibbleWatch.step host) (NibbleWatch.StoresWell host) .boot
      events) ∧
    (let state := cutFragment.foldl (BroadcastState.provision BroadcastState.sampleHost) .boot
     state.databitcnt true = -4 ∧
      state.useOf BroadcastState.sampleHost (heardFrame true 62) = .nibble true) ∧
    let state := brokenOff.foldl (BroadcastState.provision BroadcastState.sampleHost) .boot
    state.syncnum = false ∧ state.datasave true 1 = 0xF0 ∧ ∀ n < 7,
      ((state.hearAll BroadcastState.sampleHost (emptyFrames.take n)).completed
        BroadcastState.sampleHost (phoneFrame true ([64, 62, 62, 62, 64, 72, 61].getD n 0))).isNone =
          true := by
  have shift : (cutFragment.foldl (BroadcastState.provision BroadcastState.sampleHost)
      .boot).databitcnt true = -4 := by decide +kernel
  have use : (cutFragment.foldl (BroadcastState.provision BroadcastState.sampleHost)
      .boot).useOf BroadcastState.sampleHost (heardFrame true 62) = .nibble true := by
    decide +kernel
  refine ⟨fun claim => ?_, ⟨shift, use⟩, by decide +kernel⟩
  have along := claim BroadcastState.sampleHost (cutFragment ++ [heardFrame true 62])
  obtain ⟨-, stores, -⟩ := (Runs.along_append _ _ _).mp along
  have reached : (cutFragment.foldl (NibbleWatch.step BroadcastState.sampleHost) .boot).state =
      cutFragment.foldl (BroadcastState.provision BroadcastState.sampleHost) .boot :=
    NibbleWatch.foldl_state _ cutFragment .boot
  rw [NibbleWatch.StoresWell, BroadcastState.StoresWell, reached, use] at stores
  rcases stores.2 with low | high
  · exact absurd (shift.symm.trans low) (by decide)
  · exact absurd (shift.symm.trans high) (by decide)

end SmartMeter
