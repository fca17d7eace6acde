import SmartMeter.Params.ParamLayout
import SmartMeter.Platform.FlashCore

/-!
`wm_fwup.c`: the firmware update. A session takes the image in requests; the first 56 bytes
are its header, and the last request ends with the new header in flash and a reset.
-/

namespace SmartMeter

abbrev Booter := Fin 56 → UInt8

namespace Booter

def ofMemory (data : Nat → UInt8) : Booter :=
  fun index => data index

def byte (booter : Booter) (index : Nat) : UInt8 :=
  if inside : index < 56 then booter ⟨index, inside⟩ else 0

def word (offset : Nat) (booter : Booter) : UInt32 :=
  UInt32.ofNat (wordAt booter.byte offset 4)

def withWord (offset : Nat) (value : UInt32) (booter : Booter) : Booter :=
  fun index => if offset ≤ index.val ∧ index.val < offset + 4 then
    byteOf value.toNat (index - offset) else booter index

def magicNo (booter : Booter) : UInt32 := booter.word 0
def imgType (booter : Booter) : Nat := wordAt booter.byte 4 2
def zipType (booter : Booter) : Nat := wordAt booter.byte 6 2
def imgAddr (booter : Booter) : UInt32 := booter.word 8
def imgLen (booter : Booter) : UInt32 := booter.word 12
def orgChecksum (booter : Booter) : UInt32 := booter.word 16
def zipImgAddr (booter : Booter) : UInt32 := booter.word 20
def zipImgLen (booter : Booter) : UInt32 := booter.word 24
def zipChecksum (booter : Booter) : UInt32 := booter.word 28
def updNo (booter : Booter) : UInt32 := booter.word 32
def hdChecksum (booter : Booter) : UInt32 := booter.word 52

def programBase (booter : Booter) : UInt32 :=
  (if booter.zipType = 1 then booter.zipImgAddr else booter.imgAddr) ||| 0x8000000

def totalLen (booter : Booter) : UInt32 :=
  if booter.zipType = 1 then booter.zipImgLen else booter.imgLen

def checksum (booter : Booter) : UInt32 :=
  if booter.zipType = 1 then booter.zipChecksum else booter.orgChecksum

end Booter

def reflect (ref : UInt32) : UInt32 :=
  (List.range 32).foldl (fun value i =>
    if (ref >>> UInt32.ofNat i) &&& 1 ≠ 0 then value ||| 1 <<< UInt32.ofNat (31 - i)
    else value) 0

/-- The checksum hardware: from the key register and the data to the result register. -/
abbrev CrcEngine := UInt32 → List UInt8 → UInt32

/-- The hardware of this chip computes what `get_crc32` computes, with the bits turned round. -/
def crc32Engine : CrcEngine := fun key bytes => reflect (bytes.foldl calCrc32 key)

def tlsCryptoCrcUpdate (engine : CrcEngine) (state : UInt32) (bytes : List UInt8) : UInt32 :=
  engine (reflect state) bytes

def headerCrc (engine : CrcEngine) (booter : Booter) : UInt32 :=
  tlsCryptoCrcUpdate engine 0xFFFFFFFF (Buffer.toList booter.byte 52)

def imgHeaderCheck (engine : CrcEngine) (booter : Booter) : Bool :=
  if booter.magicNo ≠ 0xA0FFFF9F then false
  else if booter.imgType = 2 then false
  else booter.hdChecksum == headerCrc engine booter

namespace Booter

@[simp] theorem ofMemory_byte (booter : Booter) : ofMemory booter.byte = booter := by
  funext index
  rw [ofMemory, byte, dif_pos index.isLt]

theorem byte_withWord (offset : Nat) (value : UInt32) (booter : Booter) {index : Nat}
    (inside : index < 56) : (booter.withWord offset value).byte index =
      if offset ≤ index ∧ index < offset + 4 then byteOf value.toNat (index - offset)
      else booter.byte index := by
  simp only [byte, withWord, dif_pos inside]

theorem word_withWord {offset : Nat} (value : UInt32) (booter : Booter) (inside : offset ≤ 52) :
    (booter.withWord offset value).word offset = value := by
  apply wordAt_byteOf
  intro index bound
  rw [byte_withWord _ _ _ (by omega), if_pos (by omega), Nat.add_sub_cancel_left]

theorem byte_withWord_before {offset index : Nat} (value : UInt32) (booter : Booter)
    (inside : offset ≤ 52) (before : index < offset) :
    (booter.withWord offset value).byte index = booter.byte index := by
  rw [byte_withWord _ _ _ (by omega), if_neg (by omega)]

theorem word_withWord_before {offset place : Nat} (value : UInt32) (booter : Booter)
    (inside : offset ≤ 52) (before : place + 4 ≤ offset) :
    (booter.withWord offset value).word place = booter.word place := by
  simp only [word, wordAt_four]
  rw [byte_withWord_before value booter inside (by omega),
    byte_withWord_before value booter inside (by omega),
    byte_withWord_before value booter inside (by omega),
    byte_withWord_before value booter inside (by omega)]

end Booter

theorem headerCrc_withWord (engine : CrcEngine) (value : UInt32) (booter : Booter) :
    headerCrc engine (booter.withWord 52 value) = headerCrc engine booter := by
  have same : Buffer.toList (booter.withWord 52 value).byte 52 = Buffer.toList booter.byte 52 := by
    apply List.map_congr_left
    intro index inside
    exact Booter.byte_withWord_before value booter (by omega) (List.mem_range.mp inside)
  rw [headerCrc, same]
  rfl

/-- A header is valid with its own checksum in it, as `img_update_header` leaves it. -/
theorem imgHeaderCheck_withWord (engine : CrcEngine) {booter : Booter}
    (magic : booter.magicNo = 0xA0FFFF9F) (image : booter.imgType ≠ 2) :
    imgHeaderCheck engine (booter.withWord 52 (headerCrc engine booter)) = true := by
  have magic' : (booter.withWord 52 (headerCrc engine booter)).magicNo = 0xA0FFFF9F := magic
  have image' : (booter.withWord 52 (headerCrc engine booter)).imgType ≠ 2 := image
  have own := Booter.word_withWord (headerCrc engine booter) booter (Nat.le_refl 52)
  rw [imgHeaderCheck, if_neg (not_not_intro magic'), if_neg image', headerCrc_withWord]
  exact beq_iff_eq.mpr own

/-- A header in flash; the buffer is cleared memory if it cannot be read. -/
def readHeader (addr : UInt32) (flash : FlashDriver) : Booter :=
  Booter.ofMemory ((flash.tlsFlsRead addr 56 fun _ => 0).getD fun _ => 0)

def imageHeaderAddr1 : UInt32 := 0x800A000
def imageHeaderAddr2 : UInt32 := 0x800B000

def imgUpdateHeader (engine : CrcEngine) (memory : Option (Nat → UInt8)) (booter : Booter) (flash : FlashDriver) :
    Booter × FlashDriver :=
  let first := readHeader imageHeaderAddr1 flash
  let second := readHeader imageHeaderAddr2 flash
  let current :=
    if imgHeaderCheck engine second && first.updNo < second.updNo then second else first
  let numbered := booter.withWord 32 (current.updNo + 1)
  let booter := numbered.withWord 52 (headerCrc engine numbered)
  (booter, (flash.tlsFlsWrite memory imageHeaderAddr2 booter.byte 56).getD flash)

/-- `current_state`, one flag for each bit. -/
structure FwupFlags where
  busy : Bool
  complete : Bool
  errorIo : Bool
  errorSignature : Bool
  errorMem : Bool
  errorCrc : Bool
deriving DecidableEq

namespace FwupFlags

def clear : FwupFlags := ⟨false, false, false, false, false, false⟩

def error (flags : FwupFlags) : Bool :=
  flags.errorIo || flags.errorSignature || flags.errorMem || flags.errorCrc

end FwupFlags

structure Fwup where
  busy : Bool
  currentState : FwupFlags
  currentSessionId : UInt32
  receivedLen : UInt32
  totalLen : UInt32
  updatedLen : UInt32
  programBase : UInt32
  programOffset : UInt32

def Fwup.zero : Fwup := ⟨false, .clear, 0, 0, 0, 0, 0, 0⟩

/-- The session as `tls_fwup_enter`, `tls_fwup_exit` and `tls_fwup_reset` leave it. -/
def Fwup.cleared (busy : Bool) (sessionId : UInt32) : Fwup :=
  ⟨busy, .clear, sessionId, 0, 0, 0, 0, 0⟩

def Fwup.written (len : UInt32) (fwup : Fwup) : Fwup :=
  { fwup with
    programOffset := fwup.programOffset + len
    updatedLen := fwup.updatedLen + len }

/-- The memory from `data` on, of which `data_len` bytes are the request. -/
structure FwupRequest where
  data : Nat → UInt8
  dataLen : UInt32

def FwupRequest.skip (len : UInt32) (request : FwupRequest) : FwupRequest :=
  ⟨fun index => request.data (len.toNat + index), request.dataLen - len⟩

inductive RequestStatus
  | idle
  | busy
  | success
  | fio
  | fsignature
  | fmem
  | fcrc
  | fcomplete
deriving DecidableEq

inductive FwupEvent
  | headerChecked (booter : Booter) (passed : Bool)
  | imageWritten (len : UInt32)
  | checksumCompared (expected actual : UInt32)
  | headerUpdated (booter : Booter)
  | systemReset

structure Handling where
  fwup : Fwup
  booter : Booter
  orgChecksum : UInt32
  flash : FlashDriver
  status : RequestStatus
  events : List FwupEvent

namespace Handling

def withState (currentState : FwupFlags) (handling : Handling) : Handling :=
  { handling with fwup := { handling.fwup with currentState } }

def received (len : UInt32) (handling : Handling) : Handling :=
  { handling with
    fwup := { handling.fwup with receivedLen := handling.fwup.receivedLen + len } }

def programmed (flash : FlashDriver) (len : UInt32) (handling : Handling) : Handling :=
  { handling with
    fwup := handling.fwup.written len
    flash := flash
    events := handling.events ++ [.imageWritten len] }

def failIo (handling : Handling) : Handling :=
  { handling.withState { handling.fwup.currentState with errorIo := true } with status := .fio }

def failMem (handling : Handling) : Handling :=
  { handling.withState { handling.fwup.currentState with errorMem := true } with status := .fmem }

def failCrc (handling : Handling) : Handling :=
  { handling.withState { handling.fwup.currentState with errorCrc := true } with status := .fcrc }

end Handling

/-- The checksum of the image in flash, read in blocks of 1024 bytes; `none` when a block cannot
be read. -/
def imageChecksum (engine : CrcEngine) (flash : FlashDriver) (base offset : UInt32) (left : Nat)
    (state : UInt32) : Option UInt32 :=
  if left = 0 then some state
  else
    let len := if left > 1024 then 1024 else left
    match flash.tlsFlsRead (base + offset) len fun _ => 0 with
    | none => none
    | some buffer => imageChecksum engine flash base (offset + UInt32.ofNat len) (left - len)
        (tlsCryptoCrcUpdate engine state (Buffer.toList buffer len))
termination_by left
decreasing_by
  split
  · omega
  · omega

def verifyImage (engine : CrcEngine) (memory : Bool) (handling : Handling) : Handling :=
  let handling := { handling with flash := handling.flash.fastWriteDestroy }
  if memory = false then handling.failMem
  else match imageChecksum engine handling.flash handling.fwup.programBase 0
      handling.fwup.totalLen.toNat 0xFFFFFFFF with
    | none => handling.failIo
    | some image =>
        let handling := { handling with
          events := handling.events ++ [FwupEvent.checksumCompared handling.orgChecksum image] }
        if handling.orgChecksum ≠ image then handling.failCrc
        else { handling.withState { handling.fwup.currentState with complete := true } with
          status := .success }

def writeImage (engine : CrcEngine) (memory : Bool) (request : FwupRequest) (handling : Handling) :
    Handling :=
  if request.dataLen = 0 then { handling with status := .success }
  else match handling.flash.tlsFlsFastWrite
      (handling.fwup.programBase + handling.fwup.programOffset) request.data
      request.dataLen.toNat with
    | none => handling.failIo
    | some flash =>
        let handling := handling.programmed flash request.dataLen
        if handling.fwup.totalLen ≤ handling.fwup.updatedLen then
          verifyImage engine memory handling
        else { handling with status := .success }

def continueImage (engine : CrcEngine) (memory : Bool) (request : FwupRequest)
    (handling : Handling) : Handling :=
  writeImage engine memory request (handling.received request.dataLen)

/-- What of the request `received_len` counts to the header. -/
def headerPart (request : FwupRequest) (fwup : Fwup) : UInt32 :=
  if request.dataLen < 56 - fwup.receivedLen then request.dataLen else 56 - fwup.receivedLen

def adoptHeader (booter : Booter) (handling : Handling) : Handling :=
  { handling with
    fwup := { handling.fwup with
      programBase := booter.programBase
      totalLen := booter.totalLen
      updatedLen := 0 }
    orgChecksum := booter.checksum }

def checkHeader (engine : CrcEngine) (memory : Bool) (booter : Booter) (request : FwupRequest)
    (start : Handling) : Handling :=
  let handling := { start with
    events := start.events ++ [.headerChecked booter (imgHeaderCheck engine booter)] }
  if imgHeaderCheck engine booter then
    continueImage engine memory request (adoptHeader booter handling)
  else handling

/-- The header is always copied from the start of the request, with all its 56 bytes. -/
def receiveHeader (engine : CrcEngine) (memory : Bool) (request : FwupRequest)
    (start : Handling) : Handling :=
  let len := headerPart request start.fwup
  let handling := { start.received len with booter := Booter.ofMemory request.data }
  if handling.fwup.receivedLen == 56 then
    checkHeader engine memory handling.booter (request.skip len) handling
  else continueImage engine memory (request.skip len) handling

def discardStatus (flags : FwupFlags) : RequestStatus :=
  if flags.errorIo then .fio
  else if flags.errorSignature then .fsignature
  else if flags.errorMem then .fmem
  else if flags.errorCrc then .fcrc
  else .busy

def Handling.begun (handling : Handling) : Handling :=
  { handling.withState { handling.fwup.currentState with busy := true } with status := .busy }

/-- The body of the loop of `fwup_scheduler`, as far as `request_finish`. -/
def handleRequest (engine : CrcEngine) (memory : Bool) (request : FwupRequest)
    (start : Handling) : Handling :=
  if start.begun.fwup.currentState.error then
    { start.begun with status := discardStatus start.fwup.currentState }
  else if start.begun.fwup.currentState.complete then { start.begun with status := .fcomplete }
  else if start.begun.fwup.receivedLen < 56 then receiveHeader engine memory request start.begun
  else continueImage engine memory request start.begun

/-- `fwup` is `NULL` before the first session and after a reset. The locals of the scheduler are
kept from one request to the next. -/
structure FwupSystem where
  fwup : Option Fwup
  booter : Booter
  orgChecksum : UInt32
  flash : FlashDriver

def FwupSystem.handling (system : FwupSystem) (fwup : Fwup) : Handling :=
  ⟨fwup, system.booter, system.orgChecksum, system.flash, .idle, []⟩

/-- `request_finish`: the wait list is empty again. The test of the lengths is the only one. -/
def finishRequest (engine : CrcEngine) (headerMemory : Option (Nat → UInt8)) (handling : Handling) :
    FwupSystem × List FwupEvent :=
  let fwup := { handling.fwup with
    currentState := { handling.fwup.currentState with busy := false } }
  if fwup.totalLen ≤ fwup.updatedLen then
    let updated := imgUpdateHeader engine headerMemory handling.booter handling.flash
    (⟨none, updated.1, handling.orgChecksum,
      { updated.2 with gsflscache := none, gsSector := 0 }⟩,
      handling.events ++ [.headerUpdated updated.1, .systemReset])
  else (⟨some fwup, handling.booter, handling.orgChecksum, handling.flash⟩, handling.events)

inductive FwupStatus
  | ok
  | einvalid
  | eperm
  | ebusy
  | esessionid
  | eio
  | esignature
  | emem
  | ecrc
  | eundef
deriving DecidableEq

open FwupStatus in
def RequestStatus.toFwup : RequestStatus → FwupStatus
  | .success => .ok
  | .fio => .eio
  | .fsignature => .esignature
  | .fmem => .emem
  | .fcrc => .ecrc
  | .fcomplete => .eio
  | _ => eundef

/-- What the operating system answers while a request is made: the semaphore, the buffer for the
image and the cache for the header. -/
structure RequestMemory where
  semaphore : Bool
  image : Bool
  header : Option (Nat → UInt8)

structure FwupReturn where
  status : FwupStatus
  system : FwupSystem
  events : List FwupEvent

def tlsFwupRequestSync (engine : CrcEngine) (memory : RequestMemory) (sessionId : UInt32)
    (request : FwupRequest) (system : FwupSystem) : FwupReturn :=
  match system.fwup with
  | none => ⟨.eperm, system, []⟩
  | some fwup =>
      if sessionId ≠ fwup.currentSessionId then ⟨.esessionid, system, []⟩
      else if request.dataLen = 0 then ⟨.einvalid, system, []⟩
      else if memory.semaphore = false then ⟨.emem, system, []⟩
      else
        let handled := handleRequest engine memory.image request (system.handling fwup)
        let finished := finishRequest engine memory.header handled
        ⟨handled.status.toFwup, finished.1, finished.2⟩

/-- `installs` is whether `tls_fwup_init` gets its memory, `sessionId` the random number and
`cache` the contents of the memory for the sector cache. -/
def tlsFwupEnter (installs : Bool) (sessionId : UInt32) (cache : Nat → UInt8)
    (system : FwupSystem) : FwupSystem :=
  match system.fwup, installs with
  | none, false => system
  | none, true => { system with
      fwup := some (.cleared true sessionId), flash := system.flash.fastWriteInit cache }
  | some fwup, _ =>
      if fwup.busy then system
      else { system with
        fwup := some (.cleared true sessionId), flash := system.flash.fastWriteInit cache }

def tlsFwupExit (sessionId : UInt32) (system : FwupSystem) : FwupStatus × FwupSystem :=
  match system.fwup with
  | none => (.eperm, system)
  | some fwup =>
      if fwup.busy = false then (.eperm, system)
      else if sessionId ≠ fwup.currentSessionId then (.esessionid, system)
      else if fwup.currentState.busy then (.ebusy, system)
      else (.ok, { system with fwup := some (.cleared false 0) })

def tlsFwupReset (sessionId : UInt32) (system : FwupSystem) : FwupStatus × FwupSystem :=
  match system.fwup with
  | none => (.eperm, system)
  | some fwup =>
      if fwup.busy = false then (.eperm, system)
      else if sessionId ≠ fwup.currentSessionId then (.esessionid, system)
      else if fwup.currentState.busy then (.ebusy, system)
      else (.ok, { system with fwup := some (.cleared fwup.busy fwup.currentSessionId) })

def tlsFwupSetCrcError (sessionId : UInt32) (system : FwupSystem) : FwupStatus × FwupSystem :=
  match system.fwup with
  | none => (.eperm, system)
  | some fwup =>
      if sessionId ≠ fwup.currentSessionId then (.esessionid, system)
      else (.ok, { system with
        fwup := some { fwup with
          currentState := { fwup.currentState with errorCrc := true } } })

end SmartMeter
