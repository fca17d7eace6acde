import SmartMeter.Fwup.Activation

/-!
The same image in different requests: what an update leaves in flash, checks, compares and
answers, wherever the stream is cut.
-/

namespace SmartMeter

def sendRequest (engine : CrcEngine) (memory : RequestMemory) (sessionId : UInt32)
    (sent : FwupReturn) (request : FwupRequest) : FwupReturn :=
  let result := tlsFwupRequestSync engine memory sessionId request sent.system
  { result with events := sent.events ++ result.events }

def sendRequests (engine : CrcEngine) (memory : RequestMemory) (sessionId : UInt32)
    (requests : List FwupRequest) (system : FwupSystem) : FwupReturn :=
  requests.foldl (sendRequest engine memory sessionId) ⟨.ok, system, []⟩

namespace FwupEvent

def checkedHeader : FwupEvent → Option Booter
  | headerChecked booter _ => some booter
  | _ => none

def comparison : FwupEvent → Option (UInt32 × UInt32)
  | checksumCompared expected actual => some (expected, actual)
  | _ => none

end FwupEvent

structure UpdateOutcome where
  cells : Nat → UInt8
  checked : List Booter
  compared : List (UInt32 × UInt32)
  status : FwupStatus

def FwupReturn.outcome (sent : FwupReturn) : UpdateOutcome :=
  ⟨sent.system.flash.cells, sent.events.filterMap FwupEvent.checkedHeader,
    sent.events.filterMap FwupEvent.comparison, sent.status⟩

def FwupRequest.bytes (request : FwupRequest) : List UInt8 :=
  Buffer.toList request.data request.dataLen.toNat

def streamOf (requests : List FwupRequest) : List UInt8 :=
  requests.flatMap FwupRequest.bytes

def headerBytes (header : Booter) : List UInt8 :=
  Buffer.toList header.byte 56

def twoRequests (header : Booter) (image : List UInt8) : List FwupRequest :=
  [⟨header.byte, 56⟩, ⟨fun index => image.getD index 0, UInt32.ofNat image.length⟩]

/-- The first request holds the header, and where the image starts in the chip, so does every
later request and no address wraps around. -/
structure WellCut (header : Booter) (flash : FlashDriver) (requests : List FwupRequest) : Prop where
  whole : ∀ first ∈ requests.head?, 56 ≤ first.dataLen.toNat
  inside : flash.inChip header.programBase = true →
    header.programBase.toNat + header.totalLen.toNat ≤ 4294967296 ∧
      ∀ before after, requests = before ++ after → after ≠ [] → 56 < (streamOf before).length →
        flash.inChip (header.programBase + UInt32.ofNat ((streamOf before).length - 56)) = true

section Progress

variable (header : Booter) (image : Nat → UInt8) (flash : FlashDriver) (sessionId : UInt32)

def fwupAt (busy : Bool) (count : Nat) : Fwup where
  busy := true
  currentState := { FwupFlags.clear with busy := busy }
  currentSessionId := sessionId
  receivedLen := UInt32.ofNat (56 + count)
  totalLen := header.totalLen
  updatedLen := UInt32.ofNat count
  programBase := header.programBase
  programOffset := UInt32.ofNat count

def handlingAt (count : Nat) (events : List FwupEvent) : Handling :=
  ⟨fwupAt header sessionId true count, header, header.checksum,
    flash.imageWritten header.programBase image count, .busy, events⟩

def systemAt (count : Nat) : FwupSystem :=
  ⟨some (fwupAt header sessionId false count), header, header.checksum,
    flash.imageWritten header.programBase image count⟩

end Progress

section ContinueAt

variable {engine : CrcEngine} {memory : Bool} {header : Booter} {image : Nat → UInt8}
  {flash : FlashDriver} {sessionId : UInt32} {request : FwupRequest} {count : Nat}

theorem handlingAt_programmed (written : FlashDriver) (events : List FwupEvent) (len : UInt32)
    (same : written = flash.imageWritten header.programBase image (count + len.toNat)) :
    ((handlingAt header image flash sessionId count events).received len).programmed written len =
      handlingAt header image flash sessionId (count + len.toNat)
        (events ++ [.imageWritten len]) := by
  have received : UInt32.ofNat (56 + (count + len.toNat)) = UInt32.ofNat (56 + count) + len := by
    rw [← Nat.add_assoc, UInt32.ofNat_add, UInt32.ofNat_toNat]
  have sum : UInt32.ofNat (count + len.toNat) = UInt32.ofNat count + len := by
    rw [UInt32.ofNat_add, UInt32.ofNat_toNat]
  subst same
  simp only [handlingAt, fwupAt, Handling.received, Handling.programmed, Fwup.written, received, sum]

theorem continueImage_at (events : List FwupEvent) (filled : request.dataLen ≠ 0)
    (wraps : header.programBase.toNat + count < 4294967296)
    (inside : flash.inChip (header.programBase + UInt32.ofNat count) = true)
    (agree : ∀ index, index < request.dataLen.toNat →
      request.data index = image (count + index)) :
    continueImage engine memory request (handlingAt header image flash sessionId count events) =
      let next := handlingAt header image flash sessionId (count + request.dataLen.toNat)
        (events ++ [.imageWritten request.dataLen])
      if header.totalLen ≤ UInt32.ofNat (count + request.dataLen.toNat) then
        verifyImage engine memory next
      else { next with status := .success } := by
  have filled' : request.dataLen.toNat ≠ 0 := fun zero => filled (UInt32.toNat_inj.mp zero)
  have next := @handlingAt_programmed header image flash sessionId count _ events request.dataLen rfl
  have sum : (handlingAt header image flash sessionId count events).fwup.updatedLen +
      request.dataLen = UInt32.ofNat (count + request.dataLen.toNat) := by
    rw [UInt32.ofNat_add, UInt32.ofNat_toNat]
    rfl
  have done : (handlingAt header image flash sessionId count events).flash.tlsFlsFastWrite
      ((handlingAt header image flash sessionId count events).fwup.programBase +
        (handlingAt header image flash sessionId count events).fwup.programOffset)
      request.data request.dataLen.toNat = some (flash.imageWritten header.programBase image
        (count + request.dataLen.toNat)) :=
    FlashDriver.tlsFlsFastWrite_imageWritten filled' wraps inside agree
  dsimp only
  by_cases last : header.totalLen ≤ UInt32.ofNat (count + request.dataLen.toNat)
  · rw [if_pos last, ← next]
    apply continueImage_last filled done
    rw [sum]
    exact last
  · rw [if_neg last, ← next]
    apply continueImage_more filled done
    rw [sum]
    exact last

end ContinueAt

theorem verifyImage_events (engine : CrcEngine) (memory : Bool) (handling : Handling)
    (events : List FwupEvent) :
    verifyImage engine memory { handling with events := events } =
      { verifyImage engine memory { handling with events := [] } with
        events := events ++ (verifyImage engine memory { handling with events := [] }).events } := by
  simp only [verifyImage]
  split
  · simp [Handling.failMem, Handling.withState]
  · split
    · simp [Handling.failIo, Handling.withState]
    · split
      · rfl
      · rfl

theorem finishRequest_events (engine : CrcEngine) (memory : Option (Nat → UInt8))
    (handling : Handling) (events : List FwupEvent) :
    finishRequest engine memory { handling with events := events ++ handling.events } =
      ((finishRequest engine memory handling).1,
        events ++ (finishRequest engine memory handling).2) := by
  simp only [finishRequest]
  split
  · rw [List.append_assoc]
  · rfl

theorem continueImage_events (engine : CrcEngine) (memory : Bool) (request : FwupRequest)
    (handling : Handling) (events : List FwupEvent) :
    continueImage engine memory request { handling with events := events } =
      { continueImage engine memory request { handling with events := [] } with
        events := events ++
          (continueImage engine memory request { handling with events := [] }).events } := by
  by_cases nothing : request.dataLen = 0
  · rw [continueImage_nothing nothing, continueImage_nothing nothing]
    simp [Handling.received]
  · cases inside : handling.flash.inChip
        (handling.fwup.programBase + handling.fwup.programOffset) with
    | false =>
        have failed (noted : List FwupEvent) : continueImage engine memory request
            { handling with events := noted } = _ := continueImage_outside nothing inside
        rw [failed, failed]
        simp [Handling.failIo, Handling.withState, Handling.received]
    | true =>
        obtain ⟨flash, done⟩ := tlsFlsFastWrite_inside nothing inside
        by_cases last : handling.fwup.totalLen ≤ handling.fwup.updatedLen + request.dataLen
        · have ends (noted : List FwupEvent) : continueImage engine memory request
              { handling with events := noted } = _ := continueImage_last nothing done last
          have verified (noted : List FwupEvent) := verifyImage_events engine memory
            ((handling.received request.dataLen).programmed flash request.dataLen) noted
          simp only [Handling.programmed, Handling.received] at verified
          rw [ends, ends]
          simp only [Handling.programmed, Handling.received]
          rw [verified, verified ([] ++ _)]
          simp
        · have more (noted : List FwupEvent) : continueImage engine memory request
              { handling with events := noted } = _ := continueImage_more nothing done last
          rw [more, more]
          simp [Handling.programmed, Handling.received]

/-- How an update ends that wrote the whole image. -/
def finalReturn (engine : CrcEngine) (memory : RequestMemory) (header : Booter)
    (image : Nat → UInt8) (flash : FlashDriver) (sessionId : UInt32) : FwupReturn :=
  let handled := verifyImage engine memory.image
    (handlingAt header image flash sessionId header.totalLen.toNat [])
  let finished := finishRequest engine memory.header handled
  ⟨handled.status.toFwup, finished.1, finished.2⟩

section SendAt

variable {engine : CrcEngine} {memory : RequestMemory} {header : Booter} {image : Nat → UInt8}
  {flash : FlashDriver} {sessionId : UInt32} {request : FwupRequest} {count : Nat}

def finishImage (engine : CrcEngine) (memory : RequestMemory) (request : FwupRequest)
    (handling : Handling) : FwupReturn :=
  let handled := continueImage engine memory.image request handling
  let finished := finishRequest engine memory.header handled
  ⟨handled.status.toFwup, finished.1, finished.2⟩

theorem finishImage_more (events : List FwupEvent) (filled : request.dataLen ≠ 0)
    (wraps : header.programBase.toNat + count < 4294967296)
    (inside : flash.inChip (header.programBase + UInt32.ofNat count) = true)
    (agree : ∀ index, index < request.dataLen.toNat → request.data index = image (count + index))
    (more : count + request.dataLen.toNat < header.totalLen.toNat) :
    finishImage engine memory request (handlingAt header image flash sessionId count events) =
      ⟨.ok, systemAt header image flash sessionId (count + request.dataLen.toNat),
        events ++ [.imageWritten request.dataLen]⟩ := by
  have bound := header.totalLen.toNat_lt
  have short : ¬header.totalLen ≤ UInt32.ofNat (count + request.dataLen.toNat) := by
    rw [UInt32.le_iff_toNat_le, UInt32.toNat_ofNat']
    omega
  rw [finishImage, continueImage_at events filled wraps inside agree, if_neg short,
    finishRequest_continues engine memory.header short]
  rfl

theorem finishImage_last (events : List FwupEvent) (filled : request.dataLen ≠ 0)
    (wraps : header.programBase.toNat + count < 4294967296)
    (inside : flash.inChip (header.programBase + UInt32.ofNat count) = true)
    (agree : ∀ index, index < request.dataLen.toNat → request.data index = image (count + index))
    (last : count + request.dataLen.toNat = header.totalLen.toNat) :
    finishImage engine memory request (handlingAt header image flash sessionId count events) =
      let final := finalReturn engine memory header image flash sessionId
      { final with events := events ++ .imageWritten request.dataLen :: final.events } := by
  have reached : header.totalLen ≤ UInt32.ofNat (count + request.dataLen.toNat) := by
    rw [last, UInt32.ofNat_toNat]
    exact UInt32.le_refl _
  rw [finishImage, continueImage_at events filled wraps inside agree, if_pos reached, last]
  have noted := verifyImage_events engine memory.image
    (handlingAt header image flash sessionId header.totalLen.toNat [])
    (events ++ [.imageWritten request.dataLen])
  have start (events : List FwupEvent) :
      handlingAt header image flash sessionId header.totalLen.toNat events =
        { handlingAt header image flash sessionId header.totalLen.toNat [] with
          events := events } := rfl
  rw [start, noted, ← start, finishRequest_events]
  simp only [finalReturn, List.append_assoc, List.singleton_append]

theorem tlsFwupRequestSync_at (semaphore : memory.semaphore = true) (filled : request.dataLen ≠ 0)
    (counted : 56 + count < 4294967296) :
    tlsFwupRequestSync engine memory sessionId request
      (systemAt header image flash sessionId count) =
        finishImage engine memory request (handlingAt header image flash sessionId count []) := by
  have accepted : (systemAt header image flash sessionId count).accepts memory sessionId request =
      some (fwupAt header sessionId false count) := by
    simp [FwupSystem.accepts, systemAt, fwupAt, filled, semaphore]
  have later : ¬(fwupAt header sessionId false count).receivedLen < 56 := by
    rw [UInt32.lt_iff_toNat_lt]
    show ¬(UInt32.ofNat (56 + count)).toNat < 56
    rw [UInt32.toNat_ofNat', Nat.mod_eq_of_lt counted]
    omega
  rw [tlsFwupRequestSync_accepted engine accepted]
  dsimp only
  rw [handleRequest_later rfl rfl later]
  rfl

theorem tlsFwupRequestSync_first {system : FwupSystem} (semaphore : memory.semaphore = true)
    (fresh : system.fwup = some (.cleared true sessionId)) (whole : 56 ≤ request.dataLen.toNat)
    (checked : imgHeaderCheck engine header = true) (same : Booter.ofMemory request.data = header) :
    tlsFwupRequestSync engine memory sessionId request system =
      finishImage engine memory (request.skip 56)
        (handlingAt header image system.flash sessionId 0 [.headerChecked header true]) := by
  have filled : request.dataLen ≠ 0 := by
    intro zero
    rw [zero] at whole
    exact absurd whole (by decide)
  have accepted : system.accepts memory sessionId request = some (.cleared true sessionId) := by
    simp [FwupSystem.accepts, fresh, Fwup.cleared, filled, semaphore]
  subst same
  rw [tlsFwupRequestSync_accepted engine accepted]
  dsimp only
  rw [handleRequest_first rfl rfl rfl whole checked]
  rfl

end SendAt

theorem bytes_agree {data : Nat → UInt8} {len count : Nat} {rest image : List UInt8}
    (follows : Buffer.toList data len ++ rest = image.drop count) :
    (∀ index, index < len → data index = image.getD (count + index) 0) ∧
      rest = image.drop (count + len) := by
  constructor
  · intro index inside
    have there := congrArg (fun bytes : List UInt8 => bytes[index]?) follows
    simp only [List.getElem?_drop] at there
    rw [List.getElem?_append_left (by simpa using inside)] at there
    rw [List.getD_eq_getElem?_getD, ← there]
    simp [Buffer.toList, inside]
  · have tail := congrArg (List.drop len) follows
    rwa [List.drop_left' (Buffer.toList_length data len), List.drop_drop] at tail

theorem streamOf_eq_nil {requests : List FwupRequest}
    (filled : ∀ request ∈ requests, request.dataLen ≠ 0) (empty : streamOf requests = []) :
    requests = [] := by
  cases requests with
  | nil => rfl
  | cons request rest =>
      have none := List.append_eq_nil_iff.mp empty
      have zero : request.dataLen.toNat = 0 := by
        have length := congrArg List.length none.1
        simpa [FwupRequest.bytes] using length
      exact absurd (UInt32.toNat_inj.mp zero) (filled request (List.mem_cons_self ..))

theorem not_le_zero {len : UInt32} (some_len : len ≠ 0) : ¬len ≤ 0 := by
  rw [UInt32.le_iff_toNat_le]
  have positive : len.toNat ≠ 0 := fun zero => some_len (UInt32.toNat_inj.mp zero)
  show ¬len.toNat ≤ 0
  omega

theorem programBase_ge (header : Booter) : 134217728 ≤ header.programBase.toNat := by
  rw [Booter.programBase, UInt32.toNat_or]
  exact Nat.right_le_or

def imageAt (image : List UInt8) (index : Nat) : UInt8 := image.getD index 0

section Outcome

variable {engine : CrcEngine} {memory : RequestMemory} {header : Booter} {image : List UInt8}
  {flash : FlashDriver} {sessionId : UInt32}

def insideOutcome (engine : CrcEngine) (memory : RequestMemory) (header : Booter)
    (image : List UInt8) (flash : FlashDriver) (sessionId : UInt32) : UpdateOutcome :=
  let final := finalReturn engine memory header (imageAt image) flash sessionId
  ⟨final.system.flash.cells, header :: final.events.filterMap FwupEvent.checkedHeader,
    final.events.filterMap FwupEvent.comparison, final.status⟩

structure Reached (header : Booter) (image : List UInt8) (flash : FlashDriver)
    (sessionId : UInt32) (count : Nat) (sent : FwupReturn) : Prop where
  system : sent.system = systemAt header (imageAt image) flash sessionId count
  checked : sent.events.filterMap FwupEvent.checkedHeader = [header]
  compared : sent.events.filterMap FwupEvent.comparison = []

/-- Every request that follows starts in the chip. -/
def CutsInside (base : UInt32) (flash : FlashDriver) (count : Nat) (requests : List FwupRequest) :
    Prop :=
  ∀ before after, requests = before ++ after → after ≠ [] →
    flash.inChip (base + UInt32.ofNat (count + (streamOf before).length)) = true

theorem send_inside (semaphore : memory.semaphore = true)
    (length : image.length = header.totalLen.toNat)
    (wraps : header.programBase.toNat + header.totalLen.toNat ≤ 4294967296) {count : Nat}
    {requests : List FwupRequest} {sent : FwupReturn}
    (reached : Reached header image flash sessionId count sent)
    (unfinished : count < header.totalLen.toNat) (stream : streamOf requests = image.drop count)
    (filled : ∀ request ∈ requests, request.dataLen ≠ 0)
    (cuts : CutsInside header.programBase flash count requests) :
    (requests.foldl (sendRequest engine memory sessionId) sent).outcome =
      insideOutcome engine memory header image flash sessionId := by
  have base := programBase_ge header
  induction requests generalizing count sent with
  | nil =>
      have short := congrArg List.length stream
      simp only [streamOf, List.flatMap_nil, List.length_nil, List.length_drop] at short
      omega
  | cons request rest ih =>
      have some_data := filled request (List.mem_cons_self ..)
      have inside : flash.inChip (header.programBase + UInt32.ofNat count) = true := by
        simpa [streamOf] using cuts [] (request :: rest) rfl (List.cons_ne_nil _ _)
      obtain ⟨agree, tail⟩ := bytes_agree stream
      have size := congrArg List.length stream
      simp only [streamOf, List.flatMap_cons, List.length_append, FwupRequest.bytes,
        Buffer.toList_length, List.length_drop] at size
      have result : sendRequest engine memory sessionId sent request =
          let result := finishImage engine memory request
            (handlingAt header (imageAt image) flash sessionId count [])
          { result with events := sent.events ++ result.events } := by
        rw [sendRequest, reached.system, tlsFwupRequestSync_at semaphore some_data (by omega)]
      rw [List.foldl_cons, result]
      by_cases more : count + request.dataLen.toNat < header.totalLen.toNat
      · rw [finishImage_more [] some_data (by omega) inside agree more]
        refine ih ⟨rfl, ?_, ?_⟩ more tail (fun other member =>
          filled other (List.mem_cons_of_mem _ member)) ?_
        · simp [List.filterMap_append, reached.checked, FwupEvent.checkedHeader]
        · simp [List.filterMap_append, reached.compared, FwupEvent.comparison]
        · intro before after same some_after
          have cut := cuts (request :: before) after (by rw [same]; rfl) some_after
          simpa [streamOf, FwupRequest.bytes, Nat.add_assoc] using cut
      · have last : count + request.dataLen.toNat = header.totalLen.toNat := by omega
        have nothing : rest = [] := by
          apply streamOf_eq_nil fun other member => filled other (List.mem_cons_of_mem _ member)
          rw [show streamOf rest = _ from tail, last, ← length, List.drop_length]
        rw [finishImage_last [] some_data (by omega) inside agree last, nothing]
        simp only [FwupReturn.outcome, insideOutcome, List.foldl_nil, List.nil_append,
          List.filterMap_append, reached.checked, reached.compared]
        rfl

def outsideOutcome (header : Booter) (flash : FlashDriver) : UpdateOutcome :=
  ⟨flash.cells, [header], [], .eio⟩

structure Failed (header : Booter) (flash : FlashDriver) (sessionId : UInt32) (fwup : Fwup)
    (sent : FwupReturn) : Prop where
  session : sent.system.fwup = some fwup
  same : sessionId = fwup.currentSessionId
  error : fwup.currentState.errorIo = true
  unfinished : ¬fwup.totalLen ≤ fwup.updatedLen
  outcome : sent.outcome = outsideOutcome header flash

theorem Failed.send (engine : CrcEngine) (semaphore : memory.semaphore = true) {fwup : Fwup} {sent : FwupReturn}
    (failed : Failed header flash sessionId fwup sent) {request : FwupRequest}
    (filled : request.dataLen ≠ 0) :
    ∃ next, Failed header flash sessionId next
      (sendRequest engine memory sessionId sent request) := by
  have accepted : sent.system.accepts memory sessionId request = some fwup := by
    simp [FwupSystem.accepts, failed.session, failed.same, filled, semaphore]
  have error : fwup.currentState.error = true := by
    simp [FwupFlags.error, failed.error]
  have status : discardStatus fwup.currentState = .fio := if_pos failed.error
  have result := tlsFwupRequestSync_accepted engine accepted
  dsimp only at result
  rw [handleRequest_discarded error,
    finishRequest_continues engine memory.header failed.unfinished] at result
  have outcome := failed.outcome
  simp only [FwupReturn.outcome, outsideOutcome, UpdateOutcome.mk.injEq] at outcome
  obtain ⟨cells, checked, compared, _⟩ := outcome
  rw [sendRequest, result]
  refine ⟨_, rfl, failed.same, failed.error, failed.unfinished, ?_⟩
  simp only [FwupReturn.outcome, outsideOutcome, FwupSystem.handling, Handling.begun,
    Handling.withState, List.append_nil, UpdateOutcome.mk.injEq]
  exact ⟨cells, checked, compared, by rw [status]; rfl⟩

theorem Failed.sendAll (semaphore : memory.semaphore = true) {fwup : Fwup} {sent : FwupReturn}
    (failed : Failed header flash sessionId fwup sent) {requests : List FwupRequest}
    (filled : ∀ request ∈ requests, request.dataLen ≠ 0) :
    (requests.foldl (sendRequest engine memory sessionId) sent).outcome =
      outsideOutcome header flash := by
  induction requests generalizing fwup sent with
  | nil => exact failed.outcome
  | cons request rest ih =>
      obtain ⟨next, again⟩ := failed.send engine semaphore
        (filled request (List.mem_cons_self ..))
      exact ih again fun other member => filled other (List.mem_cons_of_mem _ member)

theorem Reached.fails (engine : CrcEngine) (semaphore : memory.semaphore = true)
    (outside : flash.inChip header.programBase = false) (some_image : header.totalLen ≠ 0)
    {sent : FwupReturn} (reached : Reached header image flash sessionId 0 sent)
    {request : FwupRequest} (filled : request.dataLen ≠ 0) :
    ∃ fwup, Failed header flash sessionId fwup (sendRequest engine memory sessionId sent request) := by
  have short := not_le_zero some_image
  have addr : header.programBase + UInt32.ofNat 0 = header.programBase := UInt32.add_zero _
  have result : tlsFwupRequestSync engine memory sessionId request sent.system = _ :=
    reached.system ▸ tlsFwupRequestSync_at semaphore filled (by decide)
  have failed : continueImage engine memory.image request
      (handlingAt header (imageAt image) flash sessionId 0 []) =
        ((handlingAt header (imageAt image) flash sessionId 0 []).received request.dataLen).failIo :=
    continueImage_outside filled (addr.symm ▸ outside)
  rw [finishImage, failed, finishRequest_continues engine memory.header short] at result
  rw [sendRequest, result]
  refine ⟨_, rfl, rfl, rfl, short, ?_⟩
  simp only [FwupReturn.outcome, outsideOutcome, UpdateOutcome.mk.injEq, List.filterMap_append,
    reached.checked, reached.compared]
  exact ⟨rfl, rfl, rfl, rfl⟩

theorem send_outside (engine : CrcEngine) (semaphore : memory.semaphore = true)
    (outside : flash.inChip header.programBase = false) (some_image : header.totalLen ≠ 0)
    {sent : FwupReturn} (reached : Reached header image flash sessionId 0 sent)
    {requests : List FwupRequest} (filled : ∀ request ∈ requests, request.dataLen ≠ 0)
    (some_request : requests ≠ []) :
    (requests.foldl (sendRequest engine memory sessionId) sent).outcome =
      outsideOutcome header flash := by
  cases requests with
  | nil => exact absurd rfl some_request
  | cons request rest =>
      obtain ⟨fwup, failed⟩ := reached.fails engine semaphore outside some_image
        (filled request (List.mem_cons_self ..))
      exact failed.sendAll semaphore fun other member => filled other (List.mem_cons_of_mem _ member)

def afterHeader (header : Booter) (image : List UInt8) (flash : FlashDriver) (sessionId : UInt32) :
    FwupReturn :=
  ⟨.ok, systemAt header (imageAt image) flash sessionId 0, [.headerChecked header true]⟩

theorem afterHeader_reached : Reached header image flash sessionId 0
    (afterHeader header image flash sessionId) :=
  ⟨rfl, rfl, rfl⟩

def imageRequests (first : FwupRequest) (rest : List FwupRequest) : List FwupRequest :=
  if (first.skip 56).dataLen = 0 then rest else first.skip 56 :: rest

theorem finishImage_events (request : FwupRequest) (events : List FwupEvent) :
    finishImage engine memory request
        (handlingAt header (imageAt image) flash sessionId 0 events) =
      let result := finishImage engine memory request
        (handlingAt header (imageAt image) flash sessionId 0 [])
      { result with events := events ++ result.events } := by
  have noted := continueImage_events engine memory.image request
    (handlingAt header (imageAt image) flash sessionId 0 []) events
  have start (events : List FwupEvent) :
      handlingAt header (imageAt image) flash sessionId 0 events =
        { handlingAt header (imageAt image) flash sessionId 0 [] with events := events } := rfl
  simp only [finishImage]
  rw [start, noted, ← start, finishRequest_events]

theorem sendRequests_first {system : FwupSystem} {first : FwupRequest} {rest : List FwupRequest}
    (semaphore : memory.semaphore = true) (fresh : system.fwup = some (.cleared true sessionId))
    (checked : imgHeaderCheck engine header = true) (some_image : header.totalLen ≠ 0)
    (whole : 56 ≤ first.dataLen.toNat) (same : Booter.ofMemory first.data = header) :
    sendRequests engine memory sessionId (first :: rest) system =
      (imageRequests first rest).foldl (sendRequest engine memory sessionId)
        (afterHeader header image system.flash sessionId) := by
  have result := @tlsFwupRequestSync_first engine memory header (imageAt image) sessionId first
    system semaphore fresh whole checked same
  rw [sendRequests, List.foldl_cons, sendRequest, result, imageRequests]
  by_cases nothing : (first.skip 56).dataLen = 0
  · have short := not_le_zero some_image
    rw [if_pos nothing, finishImage, continueImage_nothing nothing,
      finishRequest_continues engine memory.header short, nothing]
    rfl
  · rw [if_neg nothing, List.foldl_cons, finishImage_events]
    rw [sendRequest, afterHeader, tlsFwupRequestSync_at semaphore nothing (by decide)]
    rfl

end Outcome

section Cut

variable {header : Booter} {image : List UInt8} {first : FwupRequest} {rest : List FwupRequest}

theorem skip_dataLen (whole : 56 ≤ first.dataLen.toNat) :
    (first.skip 56).dataLen.toNat = first.dataLen.toNat - 56 :=
  UInt32.toNat_sub_of_le _ _ whole

theorem bytes_skip (whole : 56 ≤ first.dataLen.toNat) :
    first.bytes = Buffer.toList first.data 56 ++ (first.skip 56).bytes := by
  have size : first.dataLen.toNat = 56 + (first.skip 56).dataLen.toNat := by
    rw [skip_dataLen whole]
    omega
  rw [FwupRequest.bytes, size, Buffer.toList_add]
  rfl

theorem streamOf_imageRequests (first : FwupRequest) (rest : List FwupRequest) :
    streamOf (imageRequests first rest) = (first.skip 56).bytes ++ streamOf rest := by
  rw [imageRequests]
  split
  · rename_i nothing
    rw [FwupRequest.bytes, nothing]
    rfl
  · rfl

theorem stream_cut (whole : 56 ≤ first.dataLen.toNat)
    (stream : streamOf (first :: rest) = headerBytes header ++ image) :
    Booter.ofMemory first.data = header ∧ streamOf (imageRequests first rest) = image := by
  have cut : Buffer.toList first.data 56 ++ ((first.skip 56).bytes ++ streamOf rest) =
      headerBytes header ++ image := by
    rw [← List.append_assoc, ← bytes_skip whole]
    exact stream
  obtain ⟨front, back⟩ := List.append_inj cut (by simp [headerBytes])
  refine ⟨?_, (streamOf_imageRequests first rest).trans back⟩
  funext index
  have there := congrArg (fun bytes : List UInt8 => bytes[index.val]?) front
  simpa [headerBytes, Buffer.toList, Booter.ofMemory, Booter.byte] using there

theorem filled_imageRequests (filled : ∀ request ∈ first :: rest, request.dataLen ≠ 0) :
    ∀ request ∈ imageRequests first rest, request.dataLen ≠ 0 := by
  intro request member
  rw [imageRequests] at member
  split at member
  · exact filled request (List.mem_cons_of_mem _ member)
  · rename_i more
    rcases List.mem_cons.mp member with rfl | later
    · exact more
    · exact filled request (List.mem_cons_of_mem _ later)

theorem cutsInside_imageRequests {flash : FlashDriver} (cut : WellCut header flash (first :: rest))
    (inside : flash.inChip header.programBase = true) :
    CutsInside header.programBase flash 0 (imageRequests first rest) := by
  have whole := cut.whole first rfl
  have cuts := (cut.inside inside).2
  intro before after same some_after
  rw [Nat.zero_add]
  by_cases start : streamOf before = []
  · rw [start]
    exact (UInt32.add_zero _).symm ▸ inside
  · have positive : 0 < (streamOf before).length := List.length_pos_iff.mpr start
    -- The same place in the requests, which begin with the header.
    obtain ⟨front, split, size⟩ : ∃ front, first :: rest = front ++ after ∧
        (streamOf front).length = 56 + (streamOf before).length := by
      rw [imageRequests] at same
      split at same
      · rename_i nothing
        refine ⟨first :: before, by rw [same]; rfl, ?_⟩
        have short := skip_dataLen whole
        rw [nothing] at short
        simp only [streamOf, List.flatMap_cons, List.length_append, FwupRequest.bytes,
          Buffer.toList_length]
        have zero : (0 : UInt32).toNat = 0 := rfl
        omega
      · cases before with
        | nil => exact absurd rfl start
        | cons skipped before =>
            obtain ⟨rfl, rfl⟩ := List.cons.inj same
            refine ⟨first :: before, rfl, ?_⟩
            have short := skip_dataLen whole
            simp only [streamOf, List.flatMap_cons, List.length_append, FwupRequest.bytes,
              Buffer.toList_length]
            omega
    have there := cuts front after split some_after (by omega)
    rwa [size, Nat.add_sub_cancel_left] at there

end Cut

structure ImageSent (engine : CrcEngine) (memory : RequestMemory) (sessionId : UInt32)
    (system : FwupSystem) (header : Booter) (image : List UInt8) (requests : List FwupRequest) :
    Prop where
  semaphore : memory.semaphore = true
  fresh : system.fwup = some (.cleared true sessionId)
  checked : imgHeaderCheck engine header = true
  length : image.length = header.totalLen.toNat
  some_image : image ≠ []
  filled : ∀ request ∈ requests, request.dataLen ≠ 0
  stream : streamOf requests = headerBytes header ++ image

section ImageSent

variable {engine : CrcEngine} {memory : RequestMemory} {sessionId : UInt32} {system : FwupSystem}
  {header : Booter} {image : List UInt8} {requests : List FwupRequest}

namespace ImageSent

theorem totalLen_ne_zero (sent : ImageSent engine memory sessionId system header image requests) :
    header.totalLen ≠ 0 := by
  intro zero
  have length := sent.length
  rw [zero] at length
  exact sent.some_image (List.eq_nil_of_length_eq_zero length)

theorem outcome_eq (sent : ImageSent engine memory sessionId system header image requests)
    (cut : WellCut header system.flash requests) :
    (sendRequests engine memory sessionId requests system).outcome =
      if system.flash.inChip header.programBase then
        insideOutcome engine memory header image system.flash sessionId
      else outsideOutcome header system.flash := by
  obtain ⟨semaphore, fresh, checked, length, some_image, filled, stream⟩ := sent
  have some_len := totalLen_ne_zero
    ⟨semaphore, fresh, checked, length, some_image, filled, stream⟩
  cases requests with
  | nil =>
      have size := congrArg List.length stream
      simp [streamOf, headerBytes] at size
      omega
  | cons first rest =>
      have whole := cut.whole first rfl
      obtain ⟨same, remains⟩ := stream_cut whole stream
      rw [sendRequests_first semaphore fresh checked some_len whole same]
      have more := filled_imageRequests filled
      by_cases inside : system.flash.inChip header.programBase = true
      · rw [if_pos inside]
        refine send_inside semaphore length (cut.inside inside).1 afterHeader_reached ?_ remains more
          (cutsInside_imageRequests cut inside)
        rw [← length]
        exact List.length_pos_iff.mpr some_image
      · rw [if_neg inside]
        refine send_outside engine semaphore (by simpa using inside) some_len
          (@afterHeader_reached header image system.flash sessionId) more ?_
        intro nothing
        rw [nothing] at remains
        exact some_image remains.symm

theorem in_two (sent : ImageSent engine memory sessionId system header image requests) :
    ImageSent engine memory sessionId system header image (twoRequests header image) := by
  have len : UInt32.ofNat image.length = header.totalLen := by
    rw [sent.length, UInt32.ofNat_toNat]
  refine { sent with filled := ?_, stream := ?_ }
  · intro request member
    simp only [twoRequests, List.mem_cons, List.not_mem_nil, or_false] at member
    rcases member with rfl | rfl
    · show (56 : UInt32) ≠ 0
      decide
    · exact len.symm ▸ sent.totalLen_ne_zero
  · have bytes := Buffer.toList_getD image 0
    simp only [streamOf, twoRequests, List.flatMap_cons, List.flatMap_nil,
      FwupRequest.bytes, List.append_nil, len, ← sent.length, bytes]
    rfl

theorem wellCut_twoRequests {flash : FlashDriver} (cut : WellCut header flash requests) :
    WellCut header flash (twoRequests header image) := by
  refine ⟨?_, ?_⟩
  · rintro first ⟨⟩
    exact Nat.le_refl 56
  · intro inside
    refine ⟨(cut.inside inside).1, ?_⟩
    intro before after split some_after long
    -- The only cut behind the first byte of the stream is the one behind the header.
    exfalso
    rcases before with _ | ⟨first, _ | ⟨second, more⟩⟩
    · exact absurd long (by simp [streamOf])
    · obtain ⟨rfl, _⟩ := List.cons.inj split
      exact absurd long (by simp [streamOf, FwupRequest.bytes])
    · obtain ⟨_, later⟩ := List.cons.inj split
      obtain ⟨_, nothing⟩ := List.cons.inj later
      exact some_after (List.append_eq_nil_iff.mp nothing.symm).2

end ImageSent

end ImageSent

theorem sendRequest_events (engine : CrcEngine) (memory : RequestMemory) (sessionId : UInt32)
    (requests : List FwupRequest) (sent : FwupReturn) :
    ∃ more, (requests.foldl (sendRequest engine memory sessionId) sent).events =
      sent.events ++ more := by
  induction requests generalizing sent with
  | nil => exact ⟨[], (List.append_nil _).symm⟩
  | cons request rest ih =>
      obtain ⟨more, same⟩ := ih (sendRequest engine memory sessionId sent request)
      refine ⟨(tlsFwupRequestSync engine memory sessionId request sent.system).events ++ more, ?_⟩
      rw [List.foldl_cons, same, ← List.append_assoc]
      rfl

theorem send_no_session (engine : CrcEngine) (memory : RequestMemory) (sessionId : UInt32)
    (requests : List FwupRequest) {sent : FwupReturn} (gone : sent.system.fwup = none) :
    (requests.foldl (sendRequest engine memory sessionId) sent).events = sent.events := by
  induction requests generalizing sent with
  | nil => rfl
  | cons request rest ih =>
      have refused : tlsFwupRequestSync engine memory sessionId request sent.system =
          ⟨.eperm, sent.system, []⟩ := by
        rw [tlsFwupRequestSync, gone]
      have next : sendRequest engine memory sessionId sent request =
          ⟨.eperm, sent.system, sent.events⟩ := by
        rw [sendRequest, refused]
        simp
      rw [List.foldl_cons, next]
      exact ih gone

section ImageSent

variable {engine : CrcEngine} {memory : RequestMemory} {sessionId : UInt32} {system : FwupSystem}
  {header : Booter} {image : List UInt8} {requests : List FwupRequest}

/-- A first request without the whole header ends the update at once, and no header is checked. -/
theorem ImageSent.checked_of_short
    (sent : ImageSent engine memory sessionId system header image requests) {first : FwupRequest}
    (at_first : first ∈ requests.head?) (short : first.dataLen.toNat < 56) :
    (sendRequests engine memory sessionId requests system).outcome.checked = [] := by
  cases requests with
  | nil => cases at_first
  | cons request rest =>
      cases at_first
      have filled := sent.filled first (List.mem_cons_self ..)
      have accepted : system.accepts memory sessionId first = some (.cleared true sessionId) := by
        simp [FwupSystem.accepts, sent.fresh, Fwup.cleared, filled, sent.semaphore]
      have fresh : (system.handling (.cleared true sessionId)).fwup.Fresh :=
        ⟨rfl, rfl, rfl, rfl, rfl⟩
      have reached := first_short_reached engine memory.image fresh short
      have result := tlsFwupRequestSync_accepted engine accepted
      dsimp only at result
      rw [finishRequest, if_pos reached, handleRequest_short rfl rfl rfl short] at result
      rw [sendRequests, List.foldl_cons, sendRequest, result, FwupReturn.outcome]
      dsimp only
      rw [send_no_session engine memory sessionId rest rfl]
      rfl

theorem ImageSent.header_checked
    (sent : ImageSent engine memory sessionId system header image requests) :
    header ∈ (sendRequests engine memory sessionId (twoRequests header image) system).outcome.checked
      := by
  have run := @sendRequests_first engine memory header image sessionId system
    ⟨header.byte, 56⟩ [⟨fun index => image.getD index 0, UInt32.ofNat image.length⟩] sent.semaphore
    sent.fresh sent.checked sent.totalLen_ne_zero (Nat.le_refl 56) (Booter.ofMemory_byte header)
  obtain ⟨more, events⟩ := sendRequest_events engine memory sessionId
    (imageRequests ⟨header.byte, 56⟩ [⟨fun index => image.getD index 0,
      UInt32.ofNat image.length⟩]) (afterHeader header image system.flash sessionId)
  rw [twoRequests, run, FwupReturn.outcome, events]
  simp [afterHeader, FwupEvent.checkedHeader]

theorem ImageSent.differs_of_short
    (sent : ImageSent engine memory sessionId system header image requests) {first : FwupRequest}
    (at_first : first ∈ requests.head?) (short : first.dataLen.toNat < 56) :
    (sendRequests engine memory sessionId requests system).outcome ≠
      (sendRequests engine memory sessionId (twoRequests header image) system).outcome := by
  intro same
  have none := sent.checked_of_short at_first short
  have member := sent.header_checked
  rw [← same, none] at member
  exact absurd member List.not_mem_nil

/-- Requests that keep the header whole and the image in the chip do what the header and the
image in two requests do; a first request without the whole header does not. -/
theorem wellCut_splits_agree
    (sent : ImageSent engine memory sessionId system header image requests) :
    (WellCut header system.flash requests →
      (sendRequests engine memory sessionId requests system).outcome =
        (sendRequests engine memory sessionId (twoRequests header image) system).outcome) ∧
    ((∃ first ∈ requests.head?, first.dataLen.toNat < 56) →
      (sendRequests engine memory sessionId requests system).outcome ≠
        (sendRequests engine memory sessionId (twoRequests header image) system).outcome) := by
  constructor
  · intro cut
    rw [sent.outcome_eq cut, sent.in_two.outcome_eq (ImageSent.wellCut_twoRequests cut)]
  · rintro ⟨first, at_first, short⟩
    exact sent.differs_of_short at_first short

end ImageSent

def sampleSystem : FwupSystem :=
  ⟨some (.cleared true 1), fun _ => 0, 0, sampleFlash⟩

theorem sampleRequest_bytes :
    sampleRequest.bytes = headerBytes sampleHeader ++ List.replicate 4 0x5A := by
  have front : Buffer.toList sampleRequest.data 56 = headerBytes sampleHeader := by
    apply List.map_congr_left
    intro index inside
    exact if_pos (List.mem_range.mp inside)
  rw [bytes_skip (by decide), front, sampleRequest_image]
  rfl

theorem sample_sent {requests : List FwupRequest}
    (filled : ∀ request ∈ requests, request.dataLen ≠ 0)
    (stream : streamOf requests = sampleRequest.bytes) :
    ImageSent crc32Engine RequestMemory.enough 1 sampleSystem sampleHeader (List.replicate 4 0x5A)
      requests where
  semaphore := rfl
  fresh := rfl
  checked := sampleHeader_checked
  length := by
    rw [sampleHeader_totalLen]
    rfl
  some_image := List.cons_ne_nil _ _
  filled := filled
  stream := stream.trans sampleRequest_bytes

theorem wellCut_splits_agree_once :
    (sendRequests crc32Engine RequestMemory.enough 1 [sampleRequest] sampleSystem).outcome =
      (sendRequests crc32Engine RequestMemory.enough 1
        (twoRequests sampleHeader (List.replicate 4 0x5A)) sampleSystem).outcome := by
  refine (wellCut_splits_agree (sample_sent ?_ (List.append_nil _))).1 ⟨?_, ?_⟩
  · intro request member
    cases List.mem_singleton.mp member
    decide
  · rintro first ⟨⟩
    decide
  · intro _
    rw [sampleHeader_programBase, sampleHeader_totalLen]
    refine ⟨by decide, ?_⟩
    intro before after split some_after long
    rcases before with _ | ⟨first, more⟩
    · exact absurd long (by decide)
    · obtain ⟨_, nothing⟩ := List.cons.inj split
      exact absurd (List.append_eq_nil_iff.mp nothing.symm).2 some_after

def cutRequests : List FwupRequest :=
  [⟨sampleRequest.data, 10⟩, ⟨fun index => sampleRequest.data (10 + index), 50⟩]

theorem cut_header_differs :
    ImageSent crc32Engine RequestMemory.enough 1 sampleSystem sampleHeader (List.replicate 4 0x5A)
      cutRequests ∧
    (sendRequests crc32Engine RequestMemory.enough 1 cutRequests sampleSystem).outcome ≠
      (sendRequests crc32Engine RequestMemory.enough 1
        (twoRequests sampleHeader (List.replicate 4 0x5A)) sampleSystem).outcome := by
  have stream : streamOf cutRequests = sampleRequest.bytes := by
    have both := Buffer.toList_add sampleRequest.data 10 50
    rw [streamOf, cutRequests, List.flatMap_cons, List.flatMap_cons, List.flatMap_nil,
      List.append_nil]
    exact both.symm
  have sent := sample_sent (by
    intro request member
    simp only [cutRequests, List.mem_cons, List.not_mem_nil, or_false] at member
    rcases member with rfl | rfl
    · show (10 : UInt32) ≠ 0
      decide
    · show (50 : UInt32) ≠ 0
      decide) stream
  exact ⟨sent, sent.differs_of_short rfl (by decide)⟩

end SmartMeter
