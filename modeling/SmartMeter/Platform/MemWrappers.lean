import SmartMeter.Library.Buffer
import SmartMeter.Params.ParamLayout

/-!
The allocator of `wm_mem.c` as it is built without `DEBUG`: every block has a word with a mark and
a word for its heap in front, and the calls of the library are made in critical sections.
-/

namespace SmartMeter

def memHeadFlag : UInt32 := 0xAA55A55A

def osMemFlag : UInt32 := 0x5AA5A55A

/-- `blocks` gives the sizes of the blocks that the two heaps have handed out, by their addresses,
and `reads` is what has been copied from, addresses and counts. -/
structure MemState where
  osCnter : Nat
  criticalNesting : Nat
  isrCount : Nat
  memory : Nat → UInt8
  blocks : Nat → Option Nat
  reads : List (Nat × Nat)

namespace MemState

def entered (state : MemState) : MemState :=
  { state with osCnter := state.osCnter + 1, criticalNesting := state.criticalNesting + 1 }

/-- Neither counter goes below zero. -/
def exited (state : MemState) : MemState :=
  { state with osCnter := state.osCnter - 1, criticalNesting := state.criticalNesting - 1 }

def copied (dest src count : Nat) (state : MemState) : MemState :=
  { state with
    memory := Buffer.copy state.memory dest (fun index => state.memory (src + index)) count
    reads := state.reads ++ [(src, count)] }

end MemState

def tlsOsSetCritical : StateM MemState Unit := modify MemState.entered

def tlsOsReleaseCritical : StateM MemState Unit := modify MemState.exited

/-- `malloc` and `pvPortMalloc`: `outcome` is the block, `none` if there is no room for it. -/
def malloc (outcome : Option Nat) (size : UInt32) : StateM MemState Unit :=
  modify fun state =>
    match outcome with
    | none => state
    | some raw => { state with blocks := Function.update state.blocks raw (some size.toNat) }

def free (raw : Nat) : StateM MemState Unit :=
  modify fun state => { state with blocks := Function.update state.blocks raw none }

def writeWord (address : Nat) (value : UInt32) : StateM MemState Unit :=
  modify fun state =>
    { state with memory := Buffer.copy state.memory address (byteOf value.toNat) 4 }

def MemState.memcpy (dest src count : Nat) : StateM MemState Unit :=
  modify (MemState.copied dest src count)

def writeHead (outcome : Option Nat) (flag : UInt32) : StateM MemState (Option Nat) := do
  match outcome with
  | none => return none
  | some raw =>
      writeWord raw memHeadFlag
      writeWord (raw + 4) flag
      return some (raw + 8)

def memAllocDebug (outcome : Option Nat) (size : UInt32) : StateM MemState (Option Nat) := do
  let size := size + 8
  if (← get).isrCount > 0 then
    malloc outcome size
    writeHead outcome osMemFlag
  else
    tlsOsSetCritical
    malloc outcome size
    let buffer ← writeHead outcome 0
    tlsOsReleaseCritical
    return buffer

def memFreeDebug (p : Option Nat) : StateM MemState Unit := do
  match p with
  | none => return
  | some p =>
      let raw := p - 8
      let state ← get
      if UInt32.ofNat (wordAt state.memory raw 4) ≠ memHeadFlag then return
      else if UInt32.ofNat (wordAt state.memory (raw + 4) 4) = osMemFlag then free raw
      else
        tlsOsSetCritical
        free raw
        tlsOsReleaseCritical

def memReallocDebug (outcome memAddress : Option Nat) (size : UInt32) :
    StateM MemState (Option Nat) := do
  tlsOsSetCritical
  match ← memAllocDebug outcome size with
  | none => return none
  | some memReAddr =>
      match memAddress with
      | none => tlsOsReleaseCritical
      | some old =>
          MemState.memcpy memReAddr old size.toNat
          memFreeDebug (some old)
          tlsOsReleaseCritical
      return some memReAddr

def memCallocDebug (outcome : Option Nat) (n size : UInt32) : StateM MemState (Option Nat) := do
  let length := n * size
  tlsOsSetCritical
  let buffer ← memAllocDebug outcome length
  tlsOsReleaseCritical
  return buffer

inductive MemCall where
  | alloc (size : UInt32)
  | free (p : Option Nat)
  | realloc (memAddress : Option Nat) (size : UInt32)
  | calloc (n size : UInt32)

def MemCall.run (outcome : Option Nat) : MemCall → StateM MemState (Option Nat)
  | .alloc size => memAllocDebug outcome size
  | .free p => do
      memFreeDebug p
      return none
  | .realloc memAddress size => memReallocDebug outcome memAddress size
  | .calloc n size => memCallocDebug outcome n size

namespace MemState

/-- The bytes behind the two words of the block whose user has `p`. -/
def room (state : MemState) (p : Nat) : Nat :=
  (state.blocks (p - 8)).getD 0 - 8

def nesting (state : MemState) : Nat × Nat := (state.osCnter, state.criticalNesting)

def Zeroed (state : MemState) (p count : Nat) : Prop :=
  count ≤ state.room p ∧ ∀ index < count, state.memory (p + index) = 0

def BlockKept (before after : MemState) (p : Nat) : Prop :=
  after.blocks (p - 8) = before.blocks (p - 8) ∧
    ∀ index < before.room p, after.memory (p + index) = before.memory (p + index)

/-- What has been copied in between comes from the block at `p`. -/
def CopiesFrom (before after : MemState) (memAddress : Option Nat) : Prop :=
  ∀ read ∈ after.reads.drop before.reads.length,
    ∃ p, memAddress = some p ∧ p ≤ read.1 ∧ read.1 + read.2 ≤ p + before.room p

end MemState

/-- What is asked of a call besides that it leaves the nesting alone. -/
def MemCall.Keeps (before after : MemState) (result : Option Nat) : MemCall → Prop
  | .alloc _ => True
  | .free _ => True
  | .realloc memAddress _ => before.CopiesFrom after memAddress ∧
      (result = none → ∀ p, memAddress = some p → before.BlockKept after p)
  | .calloc n size => ∀ p, result = some p → after.Zeroed p (n.toNat * size.toNat)

def MemCall.Lawful (outcome : Option Nat) (call : MemCall) (state : MemState) : Prop :=
  let after := (call.run outcome).run state
  after.2.nesting = state.nesting ∧ call.Keeps state after.2 after.1

/-- A block that is grown, and one that is handed out, are where the calls go wrong. -/
def MemCall.Served (outcome : Option Nat) (state : MemState) : MemCall → Prop
  | .alloc _ => True
  | .free _ => True
  | .realloc memAddress size => outcome ≠ none ∧ ∀ p, memAddress = some p → size.toNat ≤ state.room p
  | .calloc n size => ∀ raw, outcome = some raw → n.toNat * size.toNat + 8 < 4294967296 ∧
      ∀ index < n.toNat * size.toNat, state.memory (raw + 8 + index) = 0

def MemState.withBlock (state : MemState) (raw : Nat) (size : UInt32) : MemState :=
  { state with
    memory := Buffer.copy (Buffer.copy state.memory raw (byteOf memHeadFlag.toNat) 4) (raw + 4)
      (byteOf (if state.isrCount > 0 then osMemFlag else 0).toNat) 4
    blocks := Function.update state.blocks raw (some size.toNat) }

section Calls

variable (state : MemState) (outcome : Option Nat)

@[simp] theorem tlsOsSetCritical_run : tlsOsSetCritical.run state = pure ((), state.entered) := rfl

@[simp] theorem tlsOsReleaseCritical_run :
    tlsOsReleaseCritical.run state = pure ((), state.exited) := rfl

@[simp] theorem memcpy_run (dest src count : Nat) :
    (MemState.memcpy dest src count).run state = pure ((), state.copied dest src count) := rfl

@[simp] theorem exited_entered : state.entered.exited = state := rfl

theorem memAllocDebug_none (size : UInt32) :
    (memAllocDebug none size).run state = pure (none, state) := by
  by_cases inIsr : state.isrCount > 0
  · simp [memAllocDebug, inIsr, malloc, writeHead]
  · simp [memAllocDebug, inIsr, malloc, writeHead]

theorem memAllocDebug_some (raw : Nat) (size : UInt32) :
    (memAllocDebug (some raw) size).run state =
      pure (some (raw + 8), state.withBlock raw (size + 8)) := by
  by_cases inIsr : state.isrCount > 0
  · simp [memAllocDebug, inIsr, malloc, writeHead, writeWord, MemState.withBlock]
  · simp [memAllocDebug, inIsr, malloc, writeHead, writeWord, MemState.withBlock,
      MemState.entered, MemState.exited]

/-- A block is returned or nothing happens. -/
theorem memFreeDebug_cases (p : Option Nat) :
    ∃ blocks, (memFreeDebug p).run state = pure ((), { state with blocks := blocks }) := by
  cases p with
  | none => exact ⟨state.blocks, rfl⟩
  | some p =>
      by_cases marked : UInt32.ofNat (wordAt state.memory (p - 8) 4) = memHeadFlag
      · refine ⟨Function.update state.blocks (p - 8) none, ?_⟩
        by_cases fromOs : UInt32.ofNat (wordAt state.memory (p - 8 + 4) 4) = osMemFlag
        · simp [memFreeDebug, marked, fromOs, SmartMeter.free]
        · simp [memFreeDebug, marked, fromOs, SmartMeter.free, MemState.entered, MemState.exited]
      · exact ⟨state.blocks, by simp [memFreeDebug, marked]⟩

/-- A call that fails leaves a critical section behind. -/
theorem memReallocDebug_none (memAddress : Option Nat) (size : UInt32) :
    (memReallocDebug none memAddress size).run state = pure (none, state.entered) := by
  simp [memReallocDebug, memAllocDebug_none]

theorem memReallocDebug_some (raw : Nat) (memAddress : Option Nat) (size : UInt32) :
    ∃ memory blocks, (memReallocDebug (some raw) memAddress size).run state =
      pure (some (raw + 8), { state with
        memory := memory
        blocks := blocks
        reads := state.reads ++ (memAddress.map fun p => (p, size.toNat)).toList }) := by
  cases memAddress with
  | none =>
      refine ⟨(state.withBlock raw (size + 8)).memory, (state.withBlock raw (size + 8)).blocks, ?_⟩
      simp [memReallocDebug, memAllocDebug_some, MemState.withBlock, MemState.entered,
        MemState.exited]
  | some old =>
      obtain ⟨blocks, freed⟩ := memFreeDebug_cases
        ((state.entered.withBlock raw (size + 8)).copied (raw + 8) old size.toNat) (some old)
      refine ⟨((state.entered.withBlock raw (size + 8)).copied (raw + 8) old size.toNat).memory,
        blocks, ?_⟩
      simp [memReallocDebug, memAllocDebug_some, freed]
      rfl

theorem memCallocDebug_none (n size : UInt32) :
    (memCallocDebug none n size).run state = pure (none, state) := by
  simp [memCallocDebug, memAllocDebug_none]

theorem memCallocDebug_some (raw : Nat) (n size : UInt32) :
    (memCallocDebug (some raw) n size).run state =
      pure (some (raw + 8), state.withBlock raw (n * size + 8)) := by
  simp [memCallocDebug, memAllocDebug_some]
  rfl

end Calls

section Laws

variable (state : MemState) (outcome : Option Nat)

/-- The size is taken modulo the width of a word, the two words in front included. -/
theorem withBlock_room (raw : Nat) (n size : UInt32) :
    (state.withBlock raw (n * size + 8)).room (raw + 8) =
      (n.toNat * size.toNat % 4294967296 + 8) % 4294967296 - 8 := by
  have length : (n * size + 8).toNat = (n.toNat * size.toNat % 4294967296 + 8) % 4294967296 := by
    rw [UInt32.toNat_add, UInt32.toNat_mul]
    rfl
  simp [MemState.room, MemState.withBlock, length]

theorem withBlock_memory {raw index : Nat} (size : UInt32) :
    (state.withBlock raw size).memory (raw + 8 + index) = state.memory (raw + 8 + index) := by
  unfold MemState.withBlock
  dsimp only
  rw [Buffer.copy_outside _ _ (by omega), Buffer.copy_outside _ _ (by omega)]

theorem zeroed_iff (raw : Nat) (n size : UInt32) :
    (state.withBlock raw (n * size + 8)).Zeroed (raw + 8) (n.toNat * size.toNat) ↔
      n.toNat * size.toNat + 8 < 4294967296 ∧
        ∀ index < n.toNat * size.toNat, state.memory (raw + 8 + index) = 0 := by
  rw [MemState.Zeroed, withBlock_room]
  simp only [withBlock_memory]
  apply and_congr_left
  intro _
  omega

theorem copiesFrom_iff {after : MemState} (memAddress : Option Nat) (size : UInt32)
    (reads : after.reads = state.reads ++ (memAddress.map fun p => (p, size.toNat)).toList) :
    state.CopiesFrom after memAddress ↔ ∀ p, memAddress = some p → size.toNat ≤ state.room p := by
  rw [MemState.CopiesFrom, reads, List.drop_left]
  cases memAddress with
  | none => simp
  | some old => simp

theorem realloc_lawful_iff (memAddress : Option Nat) (size : UInt32) :
    (MemCall.realloc memAddress size).Lawful outcome state ↔
      (MemCall.realloc memAddress size).Served outcome state := by
  cases outcome with
  | none =>
      refine iff_of_false ?_ fun served => served.1 rfl
      rintro ⟨nesting, -⟩
      rw [MemCall.run, memReallocDebug_none] at nesting
      exact absurd (congrArg Prod.fst nesting) (Nat.succ_ne_self state.osCnter)
  | some raw =>
      obtain ⟨memory, blocks, ends⟩ := memReallocDebug_some state raw memAddress size
      have copies := copiesFrom_iff state memAddress size
        (congrArg (fun result : Id (Option Nat × MemState) => result.2.reads) ends)
      constructor
      · rintro ⟨-, inside, -⟩
        exact ⟨nofun, copies.mp inside⟩
      · rintro ⟨-, fits⟩
        have handed := congrArg Prod.fst ends
        refine ⟨congrArg (fun result : Id (Option Nat × MemState) => result.2.nesting) ends,
          copies.mpr fits, fun failed => ?_⟩
        cases failed.symm.trans handed

theorem calloc_lawful_iff (n size : UInt32) :
    (MemCall.calloc n size).Lawful outcome state ↔ (MemCall.calloc n size).Served outcome state := by
  cases outcome with
  | none =>
      refine iff_of_true ?_ nofun
      have ends := memCallocDebug_none state n size
      refine ⟨congrArg (fun result : Id (Option Nat × MemState) => result.2.nesting) ends, ?_⟩
      intro p handed
      cases handed.symm.trans (congrArg Prod.fst ends)
  | some raw =>
      have ends := memCallocDebug_some state raw n size
      have zeroed := zeroed_iff state raw n size
      constructor
      · rintro ⟨-, zeros⟩ other same
        rw [← Option.some.inj same]
        have reached := zeros (raw + 8) (congrArg Prod.fst ends)
        rw [MemCall.run, ends] at reached
        exact zeroed.mp reached
      · intro served
        refine ⟨congrArg (fun result : Id (Option Nat × MemState) => result.2.nesting) ends, ?_⟩
        intro p handed
        rw [MemCall.run, ends] at handed ⊢
        rw [← Option.some.inj handed]
        exact zeroed.mpr (served raw rfl)

/-- The calls that do what is asked of them, for every outcome of the library's allocator. -/
theorem mem_call_lawful_iff (call : MemCall) :
    call.Lawful outcome state ↔ call.Served outcome state := by
  cases call with
  | alloc size =>
      refine iff_of_true ⟨?_, trivial⟩ trivial
      cases outcome with
      | none =>
          rw [MemCall.run, memAllocDebug_none]
          rfl
      | some raw =>
          rw [MemCall.run, memAllocDebug_some]
          rfl
  | free p =>
      obtain ⟨blocks, ends⟩ := memFreeDebug_cases state p
      refine iff_of_true ⟨?_, trivial⟩ trivial
      have nesting := congrArg (fun result : Id (Unit × MemState) => result.2.nesting) ends
      exact nesting
  | realloc memAddress size => exact realloc_lawful_iff state outcome memAddress size
  | calloc n size => exact calloc_lawful_iff state outcome n size

end Laws

def usedMemory : MemState := ⟨0, 0, 0, fun _ => 0xA5, fun _ => none, []⟩

/-- The interrupts stay off after a `realloc` that fails; `calloc` leaves what was there; a block of
four bytes that grows to eight is read over its end. -/
theorem mem_calls_unlawful :
    ¬(∀ outcome call state, MemCall.Lawful outcome call state) ∧
      ((memReallocDebug none none 16).run usedMemory).2.nesting = (1, 1) ∧
      ((memCallocDebug (some 1000) 1 1).run usedMemory).2.memory 1008 = 0xA5 ∧
      ((memReallocDebug (some 2000) (some 1008) 8).run
        ((memAllocDebug (some 1000) 4).run usedMemory).2).2.reads = [(1008, 8)] := by
  refine ⟨fun claim => ?_, by decide, by decide, by decide⟩
  have nesting := (claim none (.realloc none 16) usedMemory).1
  exact absurd nesting (by decide)

end SmartMeter
