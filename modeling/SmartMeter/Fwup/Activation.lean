import SmartMeter.Fwup.FwupCore
import SmartMeter.Library.Runs
import SmartMeter.Platform.FastWrite

/-!
The sessions of the firmware update in any order of calls, and when a request may rewrite the
image header and reset the device.
-/

namespace SmartMeter

inductive FwupCall
  | enter (installs : Bool) (sessionId : UInt32) (cache : Nat → UInt8)
  | request (memory : RequestMemory) (sessionId : UInt32) (request : FwupRequest)
  | setCrcError (sessionId : UInt32)
  | exit (sessionId : UInt32)
  | reset (sessionId : UInt32)

namespace FwupEvent

def activation : FwupEvent → Bool
  | headerUpdated _ => true
  | systemReset => true
  | _ => false

def imageBytes : FwupEvent → Nat
  | imageWritten len => len.toNat
  | _ => 0

end FwupEvent

def activates (events : List FwupEvent) : Bool :=
  events.any FwupEvent.activation

/-- What the current session has handed to the scheduler, and how many bytes of the image were
written. -/
structure Session where
  stream : List UInt8
  written : Nat

namespace Session

def empty : Session := ⟨[], 0⟩

def header (session : Session) : Booter :=
  Booter.ofMemory fun index => session.stream.getD index 0

def receive (request : FwupRequest) (session : Session) : Session :=
  { session with stream := session.stream ++ Buffer.toList request.data request.dataLen.toNat }

def note (events : List FwupEvent) (session : Session) : Session :=
  { session with
    written := events.foldl (fun total event => total + event.imageBytes) session.written }

end Session

def FwupSystem.accepts (memory : RequestMemory) (sessionId : UInt32) (request : FwupRequest)
    (system : FwupSystem) : Option Fwup :=
  system.fwup.filter fun fwup =>
    sessionId = fwup.currentSessionId ∧ request.dataLen ≠ 0 ∧ memory.semaphore = true

def FwupSystem.enters (installs : Bool) (system : FwupSystem) : Bool :=
  match system.fwup with
  | none => installs
  | some fwup => !fwup.busy

structure Updating where
  system : FwupSystem
  session : Session

namespace Updating

def step (engine : CrcEngine) (state : Updating) : FwupCall → Updating
  | .enter installs sessionId cache =>
      ⟨tlsFwupEnter installs sessionId cache state.system,
        if state.system.enters installs then .empty else state.session⟩
  | .request memory sessionId request =>
      let result := tlsFwupRequestSync engine memory sessionId request state.system
      ⟨result.system,
        if activates result.events then .empty
        else if (state.system.accepts memory sessionId request).isSome then
          (state.session.receive request).note result.events
        else state.session⟩
  | .setCrcError sessionId => { state with system := (tlsFwupSetCrcError sessionId state.system).2 }
  | .exit sessionId =>
      let result := tlsFwupExit sessionId state.system
      ⟨result.2, if result.1 = .ok then .empty else state.session⟩
  | .reset sessionId =>
      let result := tlsFwupReset sessionId state.system
      ⟨result.2, if result.1 = .ok then .empty else state.session⟩

def boot (densityCode : UInt8) (dataRegs cells : Nat → UInt8) (booter : Booter)
    (orgChecksum : UInt32) : Updating :=
  ⟨⟨none, booter, orgChecksum, ⟨densityCode, dataRegs, cells, none, 0⟩⟩, .empty⟩

end Updating

/-- What has to be true of the session and the scheduler at `request_finish` before the image
may be activated. -/
structure Verified (engine : CrcEngine) (session : Session) (handling : Handling) : Prop where
  received : 56 ≤ session.stream.length
  checked : imgHeaderCheck engine session.header = true
  written : session.header.totalLen.toNat ≤ session.written
  clean : handling.fwup.currentState.error = false
  agrees : imageChecksum engine handling.flash session.header.programBase 0
    session.header.totalLen.toNat 0xFFFFFFFF = some session.header.checksum

def storedHeaders (flash : FlashDriver) : Booter × Booter :=
  (Booter.ofMemory fun index => flash.cells (0xA000 + index),
    Booter.ofMemory fun index => flash.cells (0xB000 + index))

/-- A request activates an image only after verification, and nothing else touches the stored
headers. -/
def StepVerified (engine : CrcEngine) (state : Updating) : FwupCall → Prop
  | .request memory sessionId request =>
      let result := tlsFwupRequestSync engine memory sessionId request state.system
      if activates result.events then
        ∃ fwup, state.system.fwup = some fwup ∧
          Verified engine ((state.session.receive request).note result.events)
            (handleRequest engine memory.image request (state.system.handling fwup))
      else storedHeaders result.system.flash = storedHeaders state.system.flash
  | call => storedHeaders (state.step engine call).system.flash = storedHeaders state.system.flash

/-- A part of the image that cannot lead to `request_finish` with the lengths of a complete image
and without its verification. -/
def SafeImage (engine : CrcEngine) (memory : Bool) (request : FwupRequest)
    (handling : Handling) : Prop :=
  let fwup := handling.fwup
  let addr := fwup.programBase + fwup.programOffset
  if request.dataLen = 0 ∨ handling.flash.inChip addr = false then fwup.updatedLen < fwup.totalLen
  else if fwup.totalLen ≤ fwup.updatedLen + request.dataLen then
    memory = true ∧ ∀ flash,
      handling.flash.tlsFlsFastWrite addr request.data request.dataLen.toNat = some flash →
        imageChecksum engine flash.fastWriteDestroy fwup.programBase 0 fwup.totalLen.toNat
          0xFFFFFFFF = some handling.orgChecksum
  else handling.flash.Spares 10 addr request.dataLen.toNat ∧
    handling.flash.Spares 11 addr request.dataLen.toNat

/-- The first request of a session brings a whole header that passes its check; no later one
makes `received_len` wrap around. -/
def SafeRequest (engine : CrcEngine) (memory : Bool) (request : FwupRequest) (state : Updating)
    (fwup : Fwup) : Prop :=
  if state.session.stream = [] then
    fwup.currentState.error = false ∧ 56 ≤ request.dataLen.toNat ∧
      imgHeaderCheck engine (Booter.ofMemory request.data) = true ∧
      SafeImage engine memory (request.skip 56)
        (adoptHeader (Booter.ofMemory request.data) (state.system.handling fwup))
  else fwup.currentState.error = true ∨
    fwup.receivedLen.toNat + request.dataLen.toNat < 4294967296 ∧
      SafeImage engine memory request (state.system.handling fwup)

def SafeUpdateCall (engine : CrcEngine) (state : Updating) : FwupCall → Prop
  | .request memory sessionId request => ∀ fwup,
      state.system.accepts memory sessionId request = some fwup →
        SafeRequest engine memory.image request state fwup
  | _ => True

theorem activates_append (first second : List FwupEvent) :
    activates (first ++ second) = (activates first || activates second) := by
  rw [activates, List.any_append]
  rfl

theorem accepts_eq_some {memory : RequestMemory} {sessionId : UInt32} {request : FwupRequest}
    {system : FwupSystem} {fwup : Fwup}
    (accepted : system.accepts memory sessionId request = some fwup) :
    system.fwup = some fwup ∧ sessionId = fwup.currentSessionId ∧ request.dataLen ≠ 0 ∧
      memory.semaphore = true := by
  simpa [FwupSystem.accepts, Option.filter_eq_some_iff] using accepted

theorem tlsFwupRequestSync_accepted (engine : CrcEngine) {memory : RequestMemory}
    {sessionId : UInt32} {request : FwupRequest} {system : FwupSystem} {fwup : Fwup}
    (accepted : system.accepts memory sessionId request = some fwup) :
    tlsFwupRequestSync engine memory sessionId request system =
      let handled := handleRequest engine memory.image request (system.handling fwup)
      let finished := finishRequest engine memory.header handled
      ⟨handled.status.toFwup, finished.1, finished.2⟩ := by
  obtain ⟨there, same, filled, semaphore⟩ := accepts_eq_some accepted
  simp [tlsFwupRequestSync, there, same, filled, semaphore]

theorem tlsFwupRequestSync_refused (engine : CrcEngine) {memory : RequestMemory}
    {sessionId : UInt32} {request : FwupRequest} {system : FwupSystem}
    (refused : system.accepts memory sessionId request = none) :
    (tlsFwupRequestSync engine memory sessionId request system).system = system ∧
      (tlsFwupRequestSync engine memory sessionId request system).events = [] := by
  rw [tlsFwupRequestSync]
  split
  · exact ⟨rfl, rfl⟩
  · rename_i fwup there
    simp only [FwupSystem.accepts, there, Option.filter_some, ite_eq_right_iff, reduceCtorEq,
      imp_false, decide_eq_true_eq] at refused
    split
    · exact ⟨rfl, rfl⟩
    · split
      · exact ⟨rfl, rfl⟩
      · split
        · exact ⟨rfl, rfl⟩
        · rename_i same filled semaphore
          exact absurd ⟨Classical.not_not.mp same, filled, by simpa using semaphore⟩ refused

section ImagePart

variable {engine : CrcEngine} {memory : Bool} {request : FwupRequest} {handling : Handling}

theorem continueImage_nothing (nothing : request.dataLen = 0) :
    continueImage engine memory request handling =
      { handling.received request.dataLen with status := .success } := by
  rw [continueImage, writeImage, if_pos nothing]

theorem continueImage_outside (filled : request.dataLen ≠ 0)
    (outside : handling.flash.inChip (handling.fwup.programBase + handling.fwup.programOffset) =
      false) :
    continueImage engine memory request handling = (handling.received request.dataLen).failIo := by
  rw [continueImage, writeImage, if_neg filled, FlashDriver.tlsFlsFastWrite_eq]
  rw [if_pos (.inl outside)]

theorem tlsFlsFastWrite_inside (filled : request.dataLen ≠ 0)
    (inside : handling.flash.inChip (handling.fwup.programBase + handling.fwup.programOffset) =
      true) : ∃ flash, handling.flash.tlsFlsFastWrite
        (handling.fwup.programBase + handling.fwup.programOffset) request.data
        request.dataLen.toNat = some flash := by
  have filled' : request.dataLen.toNat ≠ 0 := fun zero => filled (UInt32.toNat_inj.mp zero)
  rw [FlashDriver.tlsFlsFastWrite_eq, if_neg (by simp [inside, filled'])]
  exact ⟨_, rfl⟩

theorem continueImage_more {flash : FlashDriver} (filled : request.dataLen ≠ 0)
    (done : handling.flash.tlsFlsFastWrite (handling.fwup.programBase + handling.fwup.programOffset)
      request.data request.dataLen.toNat = some flash)
    (more : ¬handling.fwup.totalLen ≤ handling.fwup.updatedLen + request.dataLen) :
    continueImage engine memory request handling =
      { (handling.received request.dataLen).programmed flash request.dataLen with
        status := .success } := by
  rw [continueImage, writeImage, if_neg filled]
  simp only [Handling.received, done]
  exact if_neg more

theorem continueImage_last {flash : FlashDriver} (filled : request.dataLen ≠ 0)
    (done : handling.flash.tlsFlsFastWrite (handling.fwup.programBase + handling.fwup.programOffset)
      request.data request.dataLen.toNat = some flash)
    (last : handling.fwup.totalLen ≤ handling.fwup.updatedLen + request.dataLen) :
    continueImage engine memory request handling =
      verifyImage engine memory
        ((handling.received request.dataLen).programmed flash request.dataLen) := by
  rw [continueImage, writeImage, if_neg filled]
  simp only [Handling.received, done]
  exact if_pos last

theorem verifyImage_agrees (agrees : imageChecksum engine handling.flash.fastWriteDestroy
    handling.fwup.programBase 0 handling.fwup.totalLen.toNat 0xFFFFFFFF =
      some handling.orgChecksum) :
    verifyImage engine true handling =
      { handling.withState { handling.fwup.currentState with complete := true } with
        flash := handling.flash.fastWriteDestroy
        events := handling.events ++ [.checksumCompared handling.orgChecksum handling.orgChecksum]
        status := .success } := by
  simp [verifyImage, agrees, Handling.withState]

end ImagePart

structure HeaderKnown (engine : CrcEngine) (session : Session) (fwup : Fwup)
    (orgChecksum : UInt32) : Prop where
  received : 56 ≤ session.stream.length
  checked : imgHeaderCheck engine session.header = true
  base : fwup.programBase = session.header.programBase
  total : fwup.totalLen = session.header.totalLen
  checksum : orgChecksum = session.header.checksum
  written : session.written = fwup.updatedLen.toNat
  counted : fwup.currentState.error = false → fwup.receivedLen.toNat = 56 + fwup.updatedLen.toNat
  incomplete : fwup.currentState.complete = false

def Sound (engine : CrcEngine) (session : Session) (fwup : Fwup) (orgChecksum : UInt32) : Prop :=
  session = .empty ∧ fwup.receivedLen = 0 ∧ fwup.totalLen = 0 ∧ fwup.updatedLen = 0 ∧
      fwup.currentState.complete = false ∨
    HeaderKnown engine session fwup orgChecksum ∧ fwup.updatedLen < fwup.totalLen

theorem storedHeaders_eq_of_spares {addr : UInt32} {buf : Nat → UInt8} {length : Nat}
    {driver written : FlashDriver} (done : driver.tlsFlsFastWrite addr buf length = some written)
    (first : driver.Spares 10 addr length) (second : driver.Spares 11 addr length) :
    storedHeaders written = storedHeaders driver := by
  refine Prod.ext (funext fun index => ?_) (funext fun index => ?_)
  · have sector : (0xA000 + index.val) / 4096 = 10 := by omega
    apply FlashDriver.tlsFlsFastWrite_spares done
    rwa [sector]
  · have sector : (0xB000 + index.val) / 4096 = 11 := by omega
    apply FlashDriver.tlsFlsFastWrite_spares done
    rwa [sector]

structure Continues (engine : CrcEngine) (session : Session) (flash : FlashDriver)
    (handled : Handling) : Prop where
  quiet : activates handled.events = false
  kept : storedHeaders handled.flash = storedHeaders flash
  known : HeaderKnown engine (session.note handled.events) handled.fwup handled.orgChecksum

def Finishes (engine : CrcEngine) (session : Session) (flash : FlashDriver) (handled : Handling) :
    Prop :=
  if handled.fwup.totalLen ≤ handled.fwup.updatedLen then
    Verified engine (session.note handled.events) handled
  else Continues engine session flash handled

section ContinueImage

variable {engine : CrcEngine} {memory : Bool} {request : FwupRequest} {session : Session}
  {handling : Handling}

structure Ready (engine : CrcEngine) (session : Session) (request : FwupRequest)
    (handling : Handling) : Prop where
  known : HeaderKnown engine session handling.fwup handling.orgChecksum
  clean : handling.fwup.currentState.error = false
  quiet : activates handling.events = false
  unwritten : session.note handling.events = session
  room : handling.fwup.receivedLen.toNat + request.dataLen.toNat < 4294967296

namespace Ready

theorem received_toNat (ready : Ready engine session request handling) :
    (handling.fwup.receivedLen + request.dataLen).toNat =
      handling.fwup.receivedLen.toNat + request.dataLen.toNat := by
  have room := ready.room
  rw [UInt32.toNat_add]
  omega

theorem updated_toNat (ready : Ready engine session request handling) :
    (handling.fwup.updatedLen + request.dataLen).toNat =
      handling.fwup.updatedLen.toNat + request.dataLen.toNat := by
  have room := ready.room
  have counted := ready.known.counted ready.clean
  rw [UInt32.toNat_add]
  omega

theorem note_written (ready : Ready engine session request handling) (more : List FwupEvent) :
    session.note (handling.events ++ .imageWritten request.dataLen :: more) =
      Session.note more { session with written := session.written + request.dataLen.toNat } := by
  have before := congrArg Session.written ready.unwritten
  simp only [Session.note] at before ⊢
  rw [List.foldl_append, before]
  rfl

theorem finishes_idle (ready : Ready engine session request handling)
    (idle : request.dataLen = 0 ∨ handling.flash.inChip (handling.fwup.programBase +
      handling.fwup.programOffset) = false)
    (unfinished : handling.fwup.updatedLen < handling.fwup.totalLen) :
    Finishes engine session handling.flash (continueImage engine memory request handling) := by
  have short : ¬handling.fwup.totalLen ≤ handling.fwup.updatedLen := UInt32.not_le.mpr unfinished
  have sum := ready.received_toNat
  by_cases nothing : request.dataLen = 0
  · rw [continueImage_nothing nothing, Finishes]
    refine (if_neg short).mpr ⟨ready.quiet, rfl, ?_⟩
    show HeaderKnown engine (session.note handling.events) _ _
    rw [ready.unwritten]
    refine { ready.known with counted := ?_ }
    intro clean
    show (handling.fwup.receivedLen + request.dataLen).toNat = 56 + handling.fwup.updatedLen.toNat
    rw [sum, nothing, ready.known.counted ready.clean]
    rfl
  · rw [continueImage_outside nothing (idle.resolve_left nothing), Finishes]
    refine (if_neg short).mpr ⟨ready.quiet, rfl, ?_⟩
    show HeaderKnown engine (session.note handling.events) _ _
    rw [ready.unwritten]
    refine { ready.known with counted := ?_ }
    intro clean
    simp [Handling.failIo, Handling.withState, FwupFlags.error] at clean

theorem finishes_more (ready : Ready engine session request handling)
    (filled : request.dataLen ≠ 0) {flash : FlashDriver}
    (done : handling.flash.tlsFlsFastWrite (handling.fwup.programBase + handling.fwup.programOffset)
      request.data request.dataLen.toNat = some flash)
    (more : ¬handling.fwup.totalLen ≤ handling.fwup.updatedLen + request.dataLen)
    (kept : storedHeaders flash = storedHeaders handling.flash) :
    Finishes engine session handling.flash (continueImage engine memory request handling) := by
  rw [continueImage_more filled done more, Finishes]
  refine (if_neg more).mpr ⟨?_, kept, ?_⟩
  · show activates (handling.events ++ [.imageWritten request.dataLen]) = false
    rw [activates_append, ready.quiet]
    rfl
  · show HeaderKnown engine (session.note (handling.events ++ [.imageWritten request.dataLen])) _ _
    rw [ready.note_written]
    refine { ready.known with written := ?_, counted := ?_ }
    · show session.written + _ = (handling.fwup.updatedLen + request.dataLen).toNat
      rw [ready.updated_toNat, ready.known.written]
    · intro clean
      show (handling.fwup.receivedLen + request.dataLen).toNat =
        56 + (handling.fwup.updatedLen + request.dataLen).toNat
      rw [ready.received_toNat, ready.updated_toNat, ready.known.counted ready.clean]
      omega

theorem finishes_last (ready : Ready engine session request handling)
    (filled : request.dataLen ≠ 0) {flash : FlashDriver}
    (done : handling.flash.tlsFlsFastWrite (handling.fwup.programBase + handling.fwup.programOffset)
      request.data request.dataLen.toNat = some flash)
    (last : handling.fwup.totalLen ≤ handling.fwup.updatedLen + request.dataLen)
    (agrees : imageChecksum engine flash.fastWriteDestroy handling.fwup.programBase 0
      handling.fwup.totalLen.toNat 0xFFFFFFFF = some handling.orgChecksum) :
    Finishes engine session handling.flash (continueImage engine true request handling) := by
  have known := ready.known
  rw [continueImage_last filled done last, verifyImage_agrees agrees, Finishes]
  refine (if_pos last).mpr ?_
  show Verified engine (session.note (handling.events ++ [.imageWritten request.dataLen] ++ _)) _
  rw [List.append_assoc, List.singleton_append, ready.note_written]
  refine ⟨known.received, known.checked, ?_, ready.clean, ?_⟩
  · show session.header.totalLen.toNat ≤ session.written + request.dataLen.toNat
    rw [known.written, ← ready.updated_toNat, ← known.total]
    exact UInt32.le_iff_toNat_le.mp last
  · show imageChecksum engine flash.fastWriteDestroy session.header.programBase 0
      session.header.totalLen.toNat 0xFFFFFFFF = some session.header.checksum
    rw [← known.base, ← known.total, ← known.checksum]
    exact agrees

theorem finishes (ready : Ready engine session request handling)
    (safe : SafeImage engine memory request handling) :
    Finishes engine session handling.flash (continueImage engine memory request handling) := by
  simp only [SafeImage] at safe
  split at safe
  · rename_i idle
    exact ready.finishes_idle idle safe
  · rename_i writes
    obtain ⟨filled, inside⟩ := not_or.mp writes
    obtain ⟨flash, done⟩ := tlsFlsFastWrite_inside filled (Bool.not_eq_false _ ▸ inside)
    split at safe
    · rename_i last
      obtain ⟨rfl, agrees⟩ := safe
      exact ready.finishes_last filled done last (agrees flash done)
    · rename_i more
      exact ready.finishes_more filled done more (storedHeaders_eq_of_spares done safe.1 safe.2)

end Ready

end ContinueImage

theorem header_receive {session : Session} (long : 56 ≤ session.stream.length)
    (request : FwupRequest) : (session.receive request).header = session.header := by
  funext index
  have inside : index.val < session.stream.length := by omega
  simp [Session.header, Session.receive, Booter.ofMemory, List.getElem?_append_left inside]

theorem header_first {request : FwupRequest} (whole : 56 ≤ request.dataLen.toNat) :
    (Session.empty.receive request).header = Booter.ofMemory request.data := by
  funext index
  have inside : index.val < request.dataLen.toNat := by omega
  simp [Session.header, Session.receive, Session.empty, Booter.ofMemory, Buffer.toList, inside]

theorem HeaderKnown.receive {engine : CrcEngine} {session : Session} {fwup : Fwup}
    {orgChecksum : UInt32} (known : HeaderKnown engine session fwup orgChecksum)
    (request : FwupRequest) : HeaderKnown engine (session.receive request) fwup orgChecksum := by
  have same := header_receive known.received request
  refine { known with received := ?_, checked := ?_, base := ?_, total := ?_, checksum := ?_ }
  · have long := known.received
    simp only [Session.receive, List.length_append]
    omega
  · rw [same, known.checked]
  · rw [same, known.base]
  · rw [same, known.total]
  · rw [same, known.checksum]

theorem HeaderKnown.withBusy {engine : CrcEngine} {session : Session} {fwup : Fwup}
    {orgChecksum : UInt32} (known : HeaderKnown engine session fwup orgChecksum) (busy : Bool) :
    HeaderKnown engine session
      { fwup with currentState := { fwup.currentState with busy := busy } } orgChecksum :=
  { known with counted := known.counted }

section HandleRequest

variable {engine : CrcEngine} {memory : Bool} {request : FwupRequest} {start : Handling}

theorem handleRequest_discarded (failed : start.fwup.currentState.error = true) :
    handleRequest engine memory request start =
      { start.begun with status := discardStatus start.fwup.currentState } := by
  rw [handleRequest]
  exact if_pos failed

theorem handleRequest_later (clean : start.fwup.currentState.error = false)
    (incomplete : start.fwup.currentState.complete = false) (later : ¬start.fwup.receivedLen < 56) :
    handleRequest engine memory request start =
      continueImage engine memory request start.begun := by
  have noError : ¬start.begun.fwup.currentState.error = true := Bool.not_eq_true _ ▸ clean
  have noEnd : ¬start.begun.fwup.currentState.complete = true := Bool.not_eq_true _ ▸ incomplete
  rw [handleRequest, if_neg noError, if_neg noEnd]
  exact if_neg later

def Handling.withHeader (request : FwupRequest) (handling : Handling) : Handling :=
  adoptHeader (Booter.ofMemory request.data) { handling.received 56 with
    booter := Booter.ofMemory request.data
    events := handling.events ++ [.headerChecked (Booter.ofMemory request.data) true] }

theorem handleRequest_first (clean : start.fwup.currentState.error = false)
    (incomplete : start.fwup.currentState.complete = false) (first : start.fwup.receivedLen = 0)
    (whole : 56 ≤ request.dataLen.toNat)
    (checked : imgHeaderCheck engine (Booter.ofMemory request.data) = true) :
    handleRequest engine memory request start =
      continueImage engine memory (request.skip 56) (start.begun.withHeader request) := by
  have noError : ¬start.begun.fwup.currentState.error = true := Bool.not_eq_true _ ▸ clean
  have noEnd : ¬start.begun.fwup.currentState.complete = true := Bool.not_eq_true _ ▸ incomplete
  have fresh : start.begun.fwup.receivedLen = 0 := first
  have part : headerPart request start.begun.fwup = 56 := by
    rw [headerPart, fresh]
    apply if_neg
    rw [UInt32.lt_iff_toNat_lt]
    exact Nat.not_lt.mpr whole
  rw [handleRequest, if_neg noError, if_neg noEnd, fresh, if_pos (by decide)]
  simp only [receiveHeader, part, Handling.received, fresh]
  rw [if_pos (by decide), checkHeader, checked, if_pos rfl]
  simp only [Handling.withHeader, Handling.received, fresh]

/-- A request that is too short for the header is taken as if the header were complete. -/
theorem handleRequest_short (clean : start.fwup.currentState.error = false)
    (incomplete : start.fwup.currentState.complete = false) (first : start.fwup.receivedLen = 0)
    (short : request.dataLen.toNat < 56) :
    handleRequest engine memory request start =
      { (start.begun.received request.dataLen).received 0 with
        booter := Booter.ofMemory request.data, status := .success } := by
  have noError : ¬start.begun.fwup.currentState.error = true := Bool.not_eq_true _ ▸ clean
  have noEnd : ¬start.begun.fwup.currentState.complete = true := Bool.not_eq_true _ ▸ incomplete
  have fresh : start.begun.fwup.receivedLen = 0 := first
  have part : headerPart request start.begun.fwup = request.dataLen := by
    rw [headerPart, fresh]
    exact if_pos (UInt32.lt_iff_toNat_lt.mpr short)
  have unequal : (0 + request.dataLen == 56) = false := by
    rw [UInt32.zero_add, beq_eq_false_iff_ne]
    intro same
    rw [same] at short
    exact absurd short (by decide)
  have nothing : (request.skip request.dataLen).dataLen = 0 := UInt32.sub_self _
  rw [handleRequest, if_neg noError, if_neg noEnd, fresh, if_pos (by decide)]
  simp only [receiveHeader, part, Handling.received, fresh, unequal, Bool.false_eq_true, if_false]
  rw [continueImage_nothing nothing, nothing]
  rfl

end HandleRequest

theorem withHeader_known {engine : CrcEngine} {request : FwupRequest} {start : Handling}
    (first : start.fwup.receivedLen = 0) (incomplete : start.fwup.currentState.complete = false)
    (whole : 56 ≤ request.dataLen.toNat)
    (checked : imgHeaderCheck engine (Booter.ofMemory request.data) = true) :
    HeaderKnown engine (Session.empty.receive request) (start.begun.withHeader request).fwup
      (start.begun.withHeader request).orgChecksum := by
  have header := header_first whole
  refine ⟨?_, ?_, ?_, ?_, ?_, rfl, ?_, incomplete⟩
  · simp [Session.receive, Session.empty, whole]
  · rw [header, checked]
  · rw [header]
    rfl
  · rw [header]
    rfl
  · rw [header]
    rfl
  · intro _
    show (start.fwup.receivedLen + 56).toNat = 56 + 0
    rw [first]
    rfl

theorem handleRequest_finishes {engine : CrcEngine} {memory : Bool} {request : FwupRequest}
    {state : Updating} {fwup : Fwup}
    (sound : Sound engine state.session fwup state.system.orgChecksum)
    (safe : SafeRequest engine memory request state fwup) :
    Finishes engine (state.session.receive request) state.system.flash
      (handleRequest engine memory request (state.system.handling fwup)) := by
  rw [SafeRequest] at safe
  rcases sound with ⟨nothing, first, _, _, incomplete⟩ | ⟨known, unfinished⟩
  · have empty : state.session.stream = [] := congrArg Session.stream nothing
    rw [if_pos empty] at safe
    obtain ⟨clean, whole, checked, image⟩ := safe
    rw [handleRequest_first clean incomplete first whole checked, nothing]
    have room : (56 : UInt32).toNat + (request.dataLen - 56).toNat < 4294967296 := by
      have bound := request.dataLen.toNat_lt
      have header : (56 : UInt32).toNat = 56 := rfl
      rw [UInt32.toNat_sub_of_le _ _ whole]
      omega
    have ready : Ready engine (Session.empty.receive request) (request.skip 56)
        ((state.system.handling fwup).begun.withHeader request) := by
      refine ⟨withHeader_known first incomplete whole checked, clean, rfl, rfl, ?_⟩
      show (fwup.receivedLen + 56).toNat + _ < _
      rw [first]
      exact room
    exact ready.finishes image
  · have long := known.received
    have started : state.session.stream ≠ [] := by
      intro nil
      rw [nil] at long
      exact absurd long (by decide)
    rw [if_neg started] at safe
    by_cases failed : fwup.currentState.error = true
    · rw [handleRequest_discarded failed, Finishes]
      exact (if_neg (UInt32.not_le.mpr unfinished)).mpr
        ⟨rfl, rfl, (known.receive request).withBusy true⟩
    · obtain ⟨room, image⟩ := safe.resolve_left failed
      have clean : fwup.currentState.error = false := by simpa using failed
      have later : ¬fwup.receivedLen < 56 := by
        rw [UInt32.lt_iff_toNat_lt, known.counted clean]
        exact Nat.not_lt.mpr (Nat.le_add_right 56 _)
      rw [handleRequest_later clean known.incomplete later]
      have ready : Ready engine (state.session.receive request) request
          (state.system.handling fwup).begun :=
        ⟨(known.receive request).withBusy true, clean, rfl, rfl, room⟩
      exact ready.finishes image

def Updating.Steady (engine : CrcEngine) (state : Updating) : Prop :=
  ∀ fwup, state.system.fwup = some fwup →
    Sound engine state.session fwup state.system.orgChecksum

theorem finishRequest_activates (engine : CrcEngine) (memory : Option (Nat → UInt8)) {handled : Handling}
    (reached : handled.fwup.totalLen ≤ handled.fwup.updatedLen) :
    activates (finishRequest engine memory handled).2 = true ∧
      (finishRequest engine memory handled).1.fwup = none ∧
      ∀ session : Session, session.note (finishRequest engine memory handled).2 =
        session.note handled.events := by
  have finished : finishRequest engine memory handled = _ := if_pos reached
  rw [finished]
  refine ⟨?_, rfl, ?_⟩
  · rw [activates_append]
    simp [activates, FwupEvent.activation]
  · intro session
    simp [Session.note, FwupEvent.imageBytes]

theorem finishRequest_continues (engine : CrcEngine) (memory : Option (Nat → UInt8)) {handled : Handling}
    (short : ¬handled.fwup.totalLen ≤ handled.fwup.updatedLen) :
    finishRequest engine memory handled =
      (⟨some { handled.fwup with
          currentState := { handled.fwup.currentState with busy := false } },
        handled.booter, handled.orgChecksum, handled.flash⟩, handled.events) :=
  if_neg short

/-- Nothing was received yet, and nothing has gone wrong. -/
structure Fwup.Fresh (fwup : Fwup) : Prop where
  received : fwup.receivedLen = 0
  total : fwup.totalLen = 0
  updated : fwup.updatedLen = 0
  clean : fwup.currentState.error = false
  incomplete : fwup.currentState.complete = false

/-- Both lengths are still zero when a first request without a whole header is finished. -/
theorem first_short_reached (engine : CrcEngine) (memory : Bool) {request : FwupRequest}
    {start : Handling} (fresh : start.fwup.Fresh) (short : request.dataLen.toNat < 56) :
    (handleRequest engine memory request start).fwup.totalLen ≤
      (handleRequest engine memory request start).fwup.updatedLen := by
  rw [handleRequest_short fresh.clean fresh.incomplete fresh.received short]
  show start.fwup.totalLen ≤ start.fwup.updatedLen
  rw [fresh.total, fresh.updated]
  exact UInt32.le_refl 0

theorem first_short_activates (engine : CrcEngine) {memory : RequestMemory} {sessionId : UInt32}
    {request : FwupRequest} {system : FwupSystem} {fwup : Fwup}
    (accepted : system.accepts memory sessionId request = some fwup) (fresh : fwup.Fresh)
    (short : request.dataLen.toNat < 56) :
    activates (tlsFwupRequestSync engine memory sessionId request system).events = true := by
  have reached := first_short_reached engine memory.image
    (show (system.handling fwup).fwup.Fresh from fresh) short
  rw [tlsFwupRequestSync_accepted engine accepted]
  exact (finishRequest_activates engine memory.header reached).1

theorem request_verified {engine : CrcEngine} {memory : RequestMemory} {sessionId : UInt32}
    {request : FwupRequest} {state : Updating} (steady : state.Steady engine)
    (safe : SafeUpdateCall engine state (.request memory sessionId request)) :
    StepVerified engine state (.request memory sessionId request) ∧
      (state.step engine (.request memory sessionId request)).Steady engine := by
  simp only [StepVerified, Updating.step, Updating.Steady]
  cases accepted : state.system.accepts memory sessionId request with
  | none =>
      obtain ⟨same, quiet⟩ := tlsFwupRequestSync_refused engine accepted
      rw [same, quiet]
      refine ⟨rfl, steady⟩
  | some fwup =>
      have there := (accepts_eq_some accepted).1
      have finishes := handleRequest_finishes (steady fwup there) (safe fwup accepted)
      have result := tlsFwupRequestSync_accepted engine accepted
      dsimp only at result
      rw [Finishes] at finishes
      split at finishes
      · rename_i reached
        obtain ⟨active, gone, noted⟩ := finishRequest_activates engine memory.header reached
        rw [result, active, gone, noted]
        refine ⟨⟨fwup, there, finishes⟩, ?_⟩
        intro next absent
        cases absent
      · rename_i short
        rw [finishRequest_continues engine memory.header short] at result
        rw [result, finishes.quiet]
        refine ⟨finishes.kept, ?_⟩
        intro next same
        cases same
        exact .inr ⟨finishes.known.withBusy false, UInt32.not_le.mp short⟩

theorem sound_cleared (engine : CrcEngine) (busy : Bool) (sessionId orgChecksum : UInt32) :
    Sound engine .empty (.cleared busy sessionId) orgChecksum :=
  .inl ⟨rfl, rfl, rfl, rfl, rfl⟩

theorem storedHeaders_fastWriteInit (cache : Nat → UInt8) (flash : FlashDriver) :
    storedHeaders (flash.fastWriteInit cache) = storedHeaders flash := by
  rw [FlashDriver.fastWriteInit]
  split
  · rfl
  · rfl

theorem tlsFwupEnter_eq (installs : Bool) (sessionId : UInt32) (cache : Nat → UInt8)
    (system : FwupSystem) :
    tlsFwupEnter installs sessionId cache system =
      if system.enters installs then { system with
        fwup := some (.cleared true sessionId), flash := system.flash.fastWriteInit cache }
      else system := by
  obtain ⟨_ | fwup, booter, orgChecksum, flash⟩ := system
  · cases installs with
    | false => rfl
    | true => rfl
  · cases occupied : fwup.busy with
    | true => simp [tlsFwupEnter, FwupSystem.enters, occupied]
    | false => simp [tlsFwupEnter, FwupSystem.enters, occupied]

theorem enter_verified {engine : CrcEngine} {state : Updating} (steady : state.Steady engine)
    (installs : Bool) (sessionId : UInt32) (cache : Nat → UInt8) :
    StepVerified engine state (.enter installs sessionId cache) ∧
      (state.step engine (.enter installs sessionId cache)).Steady engine := by
  have opened : (⟨{ state.system with
      fwup := some (.cleared true sessionId)
      flash := state.system.flash.fastWriteInit cache }, .empty⟩ : Updating).Steady engine := by
    intro fwup same
    cases same
    exact sound_cleared engine true sessionId _
  simp only [StepVerified, Updating.step, tlsFwupEnter_eq]
  by_cases enters : state.system.enters installs = true
  · rw [if_pos enters, if_pos enters]
    exact ⟨storedHeaders_fastWriteInit cache _, opened⟩
  · rw [if_neg enters, if_neg enters]
    exact ⟨rfl, steady⟩

theorem setCrcError_verified {engine : CrcEngine} {state : Updating}
    (steady : state.Steady engine) (sessionId : UInt32) :
    StepVerified engine state (.setCrcError sessionId) ∧
      (state.step engine (.setCrcError sessionId)).Steady engine := by
  simp only [StepVerified, Updating.step, tlsFwupSetCrcError]
  split
  · exact ⟨rfl, steady⟩
  · rename_i fwup there
    split
    · exact ⟨rfl, steady⟩
    · refine ⟨rfl, ?_⟩
      intro next same
      cases same
      rcases steady fwup there with fresh | ⟨known, unfinished⟩
      · exact .inl fresh
      · refine .inr ⟨{ known with counted := ?_ }, unfinished⟩
        intro clean
        simp [FwupFlags.error] at clean

def ClearsSession (system : FwupSystem) (result : FwupStatus × FwupSystem) : Prop :=
  result.1 ≠ .ok ∧ result.2 = system ∨
    result.1 = .ok ∧ ∃ busy sessionId, result.2 = { system with
      fwup := some (.cleared busy sessionId) }

theorem tlsFwupExit_clears (sessionId : UInt32) (system : FwupSystem) :
    ClearsSession system (tlsFwupExit sessionId system) := by
  rw [tlsFwupExit]
  split
  · exact .inl ⟨FwupStatus.noConfusion, rfl⟩
  · split
    · exact .inl ⟨FwupStatus.noConfusion, rfl⟩
    · split
      · exact .inl ⟨FwupStatus.noConfusion, rfl⟩
      · split
        · exact .inl ⟨FwupStatus.noConfusion, rfl⟩
        · exact .inr ⟨rfl, false, 0, rfl⟩

theorem tlsFwupReset_clears (sessionId : UInt32) (system : FwupSystem) :
    ClearsSession system (tlsFwupReset sessionId system) := by
  rw [tlsFwupReset]
  split
  · exact .inl ⟨FwupStatus.noConfusion, rfl⟩
  · rename_i fwup there
    split
    · exact .inl ⟨FwupStatus.noConfusion, rfl⟩
    · split
      · exact .inl ⟨FwupStatus.noConfusion, rfl⟩
      · split
        · exact .inl ⟨FwupStatus.noConfusion, rfl⟩
        · exact .inr ⟨rfl, fwup.busy, fwup.currentSessionId, rfl⟩

theorem ClearsSession.verified {engine : CrcEngine} {state : Updating} (steady : state.Steady engine)
    {result : FwupStatus × FwupSystem} (clears : ClearsSession state.system result) :
    storedHeaders result.2.flash = storedHeaders state.system.flash ∧
      (⟨result.2, if result.1 = .ok then .empty else state.session⟩ : Updating).Steady engine := by
  rcases clears with ⟨failed, same⟩ | ⟨done, busy, sessionId, cleared⟩
  · rw [same, if_neg failed]
    exact ⟨rfl, steady⟩
  · rw [cleared, if_pos done]
    refine ⟨rfl, ?_⟩
    intro next same
    cases same
    exact sound_cleared engine busy sessionId _

theorem step_verified {engine : CrcEngine} {state : Updating} (steady : state.Steady engine)
    {call : FwupCall} (safe : SafeUpdateCall engine state call) :
    StepVerified engine state call ∧ (state.step engine call).Steady engine := by
  cases call with
  | enter installs sessionId cache => exact enter_verified steady installs sessionId cache
  | request memory sessionId request => exact request_verified steady safe
  | setCrcError sessionId => exact setCrcError_verified steady sessionId
  | exit sessionId => exact (tlsFwupExit_clears sessionId state.system).verified steady
  | reset sessionId => exact (tlsFwupReset_clears sessionId state.system).verified steady

theorem along_verified {engine : CrcEngine} {state : Updating} (steady : state.Steady engine)
    {calls : List FwupCall}
    (safe : Runs.Along (Updating.step engine) (SafeUpdateCall engine) state calls) :
    Runs.Along (Updating.step engine) (StepVerified engine) state calls := by
  induction calls generalizing state with
  | nil => trivial
  | cons call rest ih =>
      obtain ⟨verified, steady'⟩ := step_verified steady safe.1
      exact ⟨verified, ih steady' safe.2⟩

theorem boot_steady (engine : CrcEngine) (densityCode : UInt8) (dataRegs cells : Nat → UInt8)
    (booter : Booter) (orgChecksum : UInt32) :
    (Updating.boot densityCode dataRegs cells booter orgChecksum).Steady engine := by
  intro fwup absent
  cases absent

def Updating.erased : Updating :=
  Updating.boot 0x14 (fun _ => 0) (fun _ => 0xFF) (fun _ => 0) 0

def RequestMemory.enough : RequestMemory := ⟨true, true, some fun _ => 0⟩

def sampleFlash : FlashDriver :=
  ⟨0x14, fun _ => 0, fun _ => 0xFF, some fun _ => 0, 0⟩

def sampleWritten : FlashDriver :=
  ((sampleFlash.enterSector 0x8020).putBytes 0x8020000 (fun _ => 0x5A) 4).fastWriteDestroy

def sampleChecksum : UInt32 :=
  tlsCryptoCrcUpdate crc32Engine 0xFFFFFFFF
    (Buffer.toList (sampleWritten.flashRead 0x8020000 4 fun _ => 0) 4)

def sampleFields : Booter :=
  Booter.withWord 16 sampleChecksum
    (Booter.withWord 12 4 (Booter.withWord 8 0x20000 (Booter.withWord 0 0xA0FFFF9F fun _ => 0)))

def sampleHeader : Booter :=
  sampleFields.withWord 52 (headerCrc crc32Engine sampleFields)

theorem sampleHeader_checked : imgHeaderCheck crc32Engine sampleHeader = true :=
  imgHeaderCheck_withWord crc32Engine rfl (by decide)

theorem sampleHeader_plain : sampleHeader.zipType ≠ 1 := by decide

theorem sampleHeader_programBase : sampleHeader.programBase = 0x8020000 := by
  have addr : sampleHeader.imgAddr = 0x20000 := by
    show sampleHeader.word 8 = _
    rw [sampleHeader, sampleFields, Booter.word_withWord_before _ _ (by decide) (by decide),
      Booter.word_withWord_before _ _ (by decide) (by decide),
      Booter.word_withWord_before _ _ (by decide) (by decide),
      Booter.word_withWord _ _ (by decide)]
  rw [Booter.programBase, if_neg sampleHeader_plain, addr]
  decide

theorem sampleHeader_totalLen : sampleHeader.totalLen = 4 := by
  rw [Booter.totalLen, if_neg sampleHeader_plain]
  show sampleHeader.word 12 = _
  rw [sampleHeader, sampleFields, Booter.word_withWord_before _ _ (by decide) (by decide),
    Booter.word_withWord_before _ _ (by decide) (by decide), Booter.word_withWord _ _ (by decide)]

theorem sampleHeader_checksum : sampleHeader.checksum = sampleChecksum := by
  rw [Booter.checksum, if_neg sampleHeader_plain]
  show sampleHeader.word 16 = _
  rw [sampleHeader, sampleFields, Booter.word_withWord_before _ _ (by decide) (by decide),
    Booter.word_withWord _ _ (by decide)]

def sampleRequest : FwupRequest :=
  ⟨fun index => if index < 56 then sampleHeader.byte index else 0x5A, 60⟩

theorem sampleRequest_header : Booter.ofMemory sampleRequest.data = sampleHeader := by
  funext index
  show (if index.val < 56 then sampleHeader.byte index else 0x5A) = sampleHeader index
  rw [if_pos index.isLt, Booter.byte, dif_pos index.isLt]

theorem sampleRequest_image :
    (sampleRequest.skip 56) = ⟨fun _ => 0x5A, 4⟩ := by
  have data : (fun index => sampleRequest.data ((56 : UInt32).toNat + index)) = fun _ => 0x5A := by
    funext index
    have behind : ¬(56 : UInt32).toNat + index < 56 := by
      show ¬56 + index < 56
      omega
    exact if_neg behind
  rw [FwupRequest.skip, data]
  rfl

theorem imageChecksum_block (engine : CrcEngine) (flash : FlashDriver) (base : UInt32) {left : Nat}
    (some_left : left ≠ 0) (one : left ≤ 1024) (inside : flash.inChip base = true) (state : UInt32) :
    imageChecksum engine flash base 0 left state = some (tlsCryptoCrcUpdate engine state
      (Buffer.toList (flash.flashRead base.toNat left fun _ => 0) left)) := by
  have len : (if left > 1024 then 1024 else left) = left := if_neg (by omega)
  have chip : ¬(flash.inChip base = false ∨ left = 0) := by simp [inside, some_left]
  rw [imageChecksum, if_neg some_left]
  simp only [len, UInt32.add_zero, FlashDriver.tlsFlsRead, if_neg chip]
  rw [Nat.sub_self, imageChecksum, if_pos rfl]

def sampleStart : Handling :=
  ⟨.cleared true 1, fun _ => 0, 0, sampleFlash, .idle, []⟩

theorem sample_safe : SafeImage crc32Engine true (sampleRequest.skip 56)
    (adoptHeader (Booter.ofMemory sampleRequest.data) sampleStart) := by
  rw [sampleRequest_header, sampleRequest_image]
  simp only [SafeImage, adoptHeader, sampleHeader_programBase, sampleHeader_totalLen,
    sampleHeader_checksum]
  rw [if_neg (by decide), if_pos (by decide)]
  refine ⟨trivial, ?_⟩
  intro flash done
  rw [FlashDriver.tlsFlsFastWrite_eq, if_neg (by decide)] at done
  cases done
  exact imageChecksum_block crc32Engine sampleWritten 0x8020000 (by decide) (by decide) rfl _

end SmartMeter
