import SmartMeter.Tasks.TaskCore
import SmartMeter.Library.Runs
import Mathlib.Data.List.Basic

/-!
Which messages reach the receiving task. A call of `tls_wl_task_callback_static` counts its message
after it is posted, and the receiver takes it off the count after it is fetched; while nobody stops
in between, the count is one exactly for the messages in the mailbox.
-/

namespace SmartMeter

namespace CallerStage

def Inside (msgId : Fin 8) : CallerStage → Prop
  | fill _ _ _ filled => filled = msgId
  | post call _ => call.msg = .static msgId
  | count counted _ => counted = msgId
  | _ => False

end CallerStage

def ReceiverStage.Holds (msgId : Fin 8) (stage : ReceiverStage) : Prop :=
  stage = .fetched (.static msgId) ∨ ∃ work, stage = .loaded msgId work

def TaskMsg.work (records : Fin 8 → TaskRecord) : TaskMsg → TaskWork
  | .static msgId => (records msgId).work
  | .block work => work

/-- The work that has left the mailbox and is not done. -/
def ReceiverStage.underway (records : Fin 8 → TaskRecord) : ReceiverStage → List TaskWork
  | .waiting => []
  | .fetched msg => [msg.work records]
  | .loaded _ work => [work]
  | .running work => [work]

namespace TaskState

/-- Every call that returned told the truth about its message, what was put in the mailbox is
done once and in order, and exactly the messages in the mailbox are counted. -/
structure Sound (state : TaskState) : Prop where
  reported : ∀ result ∈ state.returns, result.success = result.put
  delivered : state.put = state.executed ++ state.receiver.underway state.records ++
    state.mailbox.map (TaskMsg.work state.records)
  drained : ∃ count, (receiverStep^[count] state).executed = state.put
  pending : ∀ msgId, 0 < (state.records msgId).cnt ↔ .static msgId ∈ state.mailbox

/-- A static call gets past its check only while no other call of the same id is on its way, and
a blocking post finds room by its tenth attempt. -/
def Safe (task : Nat) (state : TaskState) : TaskCall ⊕ Bool → Prop
  | .inl _ => True
  | .inr _ =>
      match state.callers task with
      | .enter (.callbackStatic _ _ _ msgId) => (state.records msgId).cnt = 0 →
          ∀ other, other ≠ task → ¬(state.callers other).Inside msgId
      | .post call tries => state.mailbox.length < state.capacity ∨ call.block = false ∨
          tries + 1 < 10
      | _ => True

/-- Nobody is stopped between putting a static message in the mailbox and counting it, or between
fetching it and taking it off the count. -/
def Undisturbed (state : TaskState) : TaskSlice → Prop
  | .caller task actions => Runs.Along (callerAct task) (Safe task) state actions ∧
      ∀ msgId put, (state.runSlice (.caller task actions)).callers task ≠ .count msgId put
  | .receiver count => ∀ msgId, ¬(state.runSlice (.receiver count)).receiver.Holds msgId

inductive Phase (records : Fin 8 → TaskRecord) (mailbox : List TaskMsg) (receiver : ReceiverStage)
    (callers : Nat → CallerStage) (msgId : Fin 8) : Prop
  | free (zero : (records msgId).cnt = 0) (out : mailbox.count (.static msgId) = 0)
      (loose : ¬receiver.Holds msgId) (uncounted : ∀ task put, callers task ≠ .count msgId put)
  | posted (task : Nat) (counting : callers task = .count msgId true)
      (zero : (records msgId).cnt = 0) (once : mailbox.count (.static msgId) = 1)
      (loose : ¬receiver.Holds msgId)
  | pending (one : (records msgId).cnt = 1) (once : mailbox.count (.static msgId) = 1)
      (loose : ¬receiver.Holds msgId) (nobody : ∀ task, ¬(callers task).Inside msgId)
  | fetched (one : (records msgId).cnt = 1) (out : mailbox.count (.static msgId) = 0)
      (held : receiver.Holds msgId) (nobody : ∀ task, ¬(callers task).Inside msgId)

/-- A call that waits to post a record has filled it. -/
def StageFits (records : Fin 8 → TaskRecord) : CallerStage → Prop
  | .alloc call => ∀ msgId, call.msg ≠ .static msgId
  | .post call _ => ∀ msgId, call.msg = .static msgId → (records msgId).work = call.work
  | _ => True

structure Inv (state : TaskState) : Prop where
  reported : ∀ result ∈ state.returns, result.success = result.put
  delivered : state.put = state.executed ++ state.receiver.underway state.records ++
    state.mailbox.map (TaskMsg.work state.records)
  alone : ∀ msgId first second, (state.callers first).Inside msgId →
    (state.callers second).Inside msgId → first = second
  stages : ∀ task, StageFits state.records (state.callers task)
  phase : ∀ msgId, Phase state.records state.mailbox state.receiver state.callers msgId

variable {state : TaskState} {task : Nat} {stage : CallerStage} {msgId : Fin 8}

@[simp] theorem setCaller_same : (state.setCaller task stage).callers task = stage :=
  Function.update_self ..

theorem setCaller_other {other : Nat} (apart : other ≠ task) :
    (state.setCaller task stage).callers other = state.callers other :=
  Function.update_of_ne apart ..

theorem setCaller_inside {other : Nat}
    (inside : ((state.setCaller task stage).callers other).Inside msgId) :
    other = task ∧ stage.Inside msgId ∨ other ≠ task ∧ (state.callers other).Inside msgId := by
  by_cases same : other = task
  · subst same
    rw [setCaller_same] at inside
    exact .inl ⟨rfl, inside⟩
  · rw [setCaller_other same] at inside
    exact .inr ⟨same, inside⟩

theorem Inv.free_of_inside (inv : state.Inv) (inside : (state.callers task).Inside msgId)
    (early : ∀ put, state.callers task ≠ .count msgId put) :
    (state.records msgId).cnt = 0 ∧ state.mailbox.count (.static msgId) = 0 ∧
      ¬state.receiver.Holds msgId := by
  cases inv.phase msgId with
  | free zero out loose _ => exact ⟨zero, out, loose⟩
  | posted other counting _ _ _ =>
      have same := inv.alone msgId task other inside (by rw [counting]; rfl)
      exact absurd (same ▸ counting) (early true)
  | pending _ _ _ nobody => exact absurd inside (nobody task)
  | fetched _ _ _ nobody => exact absurd inside (nobody task)

theorem Phase.setCaller
    (phase : Phase state.records state.mailbox state.receiver state.callers msgId)
    (early : ∀ put, state.callers task ≠ .count msgId put)
    (later : ∀ put, stage ≠ .count msgId put)
    (enters : stage.Inside msgId → (state.callers task).Inside msgId ∨
      (state.records msgId).cnt = 0) :
    Phase state.records state.mailbox state.receiver (state.setCaller task stage).callers
      msgId := by
  have nobodyStill (one : (state.records msgId).cnt = 1)
      (nobody : ∀ task, ¬(state.callers task).Inside msgId) (other : Nat) :
      ¬((state.setCaller task stage).callers other).Inside msgId := by
    intro inside
    rcases setCaller_inside inside with ⟨_, inside⟩ | ⟨_, inside⟩
    · rcases enters inside with before | zero
      · exact nobody task before
      · exact absurd (one.symm.trans zero) (by decide)
    · exact nobody other inside
  cases phase with
  | free zero out loose uncounted =>
      refine .free zero out loose ?_
      intro other put
      by_cases same : other = task
      · subst same
        rw [setCaller_same]
        exact later put
      · rw [setCaller_other same]
        exact uncounted other put
  | posted other counting zero once loose =>
      have apart : other ≠ task := by
        rintro rfl
        exact early true counting
      exact .posted other (by rwa [setCaller_other apart]) zero once loose
  | pending one once loose nobody => exact .pending one once loose (nobodyStill one nobody)
  | fetched one out held nobody => exact .fetched one out held (nobodyStill one nobody)

/-- A task that goes from one stage of a call to the next, outside of the counting. -/
theorem Inv.setCaller (inv : state.Inv) (fits : StageFits state.records stage)
    (early : ∀ msgId put, state.callers task ≠ .count msgId put)
    (later : ∀ msgId put, stage ≠ .count msgId put)
    (enters : ∀ msgId, stage.Inside msgId → (state.callers task).Inside msgId ∨
      (state.records msgId).cnt = 0 ∧
        ∀ other, other ≠ task → ¬(state.callers other).Inside msgId) :
    (state.setCaller task stage).Inv where
  reported := inv.reported
  delivered := inv.delivered
  alone msgId first second firstInside secondInside := by
    have others {other : Nat} (apart : other ≠ task) (inside : (state.callers other).Inside msgId)
        (entered : stage.Inside msgId) : False := by
      rcases enters msgId entered with before | ⟨_, nobody⟩
      · exact apart (inv.alone msgId other task inside before)
      · exact nobody other apart inside
    rcases setCaller_inside firstInside with ⟨rfl, first⟩ | ⟨firstApart, first⟩
    · rcases setCaller_inside secondInside with ⟨rfl, _⟩ | ⟨secondApart, second⟩
      · rfl
      · exact (others secondApart second first).elim
    · rcases setCaller_inside secondInside with ⟨rfl, second⟩ | ⟨_, second⟩
      · exact (others firstApart first second).elim
      · exact inv.alone msgId _ _ first second
  stages other := by
    by_cases same : other = task
    · subst same
      rwa [setCaller_same]
    · rw [setCaller_other same]
      exact inv.stages other
  phase msgId := (inv.phase msgId).setCaller (early msgId) (later msgId)
    fun inside => (enters msgId inside).imp_right And.left

theorem Inv.finish (inv : state.Inv) (early : ∀ msgId put, state.callers task ≠ .count msgId put)
    {success put : Bool} (honest : success = put) : (state.finish task success put).Inv := by
  have left : (state.setCaller task .idle).Inv := inv.setCaller trivial early nofun nofun
  refine ⟨?_, left.delivered, left.alone, left.stages, left.phase⟩
  intro result returned
  rcases List.mem_append.mp returned with before | last
  · exact inv.reported result before
  · cases List.mem_singleton.mp last
    exact honest

theorem Phase.congr {records records' : Fin 8 → TaskRecord} {mailbox mailbox' : List TaskMsg}
    {receiver receiver' : ReceiverStage} {callers : Nat → CallerStage}
    (phase : Phase records mailbox receiver callers msgId)
    (cnt : (records' msgId).cnt = (records msgId).cnt)
    (queued : mailbox'.count (.static msgId) = mailbox.count (.static msgId))
    (holds : receiver'.Holds msgId ↔ receiver.Holds msgId) :
    Phase records' mailbox' receiver' callers msgId := by
  cases phase with
  | free zero out loose uncounted =>
      exact .free (cnt.trans zero) (queued.trans out) (mt holds.mp loose) uncounted
  | posted task counting zero once loose =>
      exact .posted task counting (cnt.trans zero) (queued.trans once) (mt holds.mp loose)
  | pending one once loose nobody =>
      exact .pending (cnt.trans one) (queued.trans once) (mt holds.mp loose) nobody
  | fetched one out held nobody =>
      exact .fetched (cnt.trans one) (queued.trans out) (holds.mpr held) nobody

@[simp] theorem setRecord_same (record : TaskRecord) :
    (state.setRecord msgId record).records msgId = record := Function.update_self ..

theorem setRecord_other {other : Fin 8} (apart : other ≠ msgId) (record : TaskRecord) :
    (state.setRecord msgId record).records other = state.records other :=
  Function.update_of_ne apart ..

theorem setRecord_cnt {record : TaskRecord} (same : record.cnt = (state.records msgId).cnt)
    (other : Fin 8) :
    ((state.setRecord msgId record).records other).cnt = (state.records other).cnt := by
  by_cases here : other = msgId
  · rw [here, setRecord_same, same]
  · rw [setRecord_other here]

theorem setRecord_work {record : TaskRecord} (same : record.work = (state.records msgId).work)
    (other : Fin 8) :
    ((state.setRecord msgId record).records other).work = (state.records other).work := by
  by_cases here : other = msgId
  · rw [here, setRecord_same, same]
  · rw [setRecord_other here]

/-- A record is written while its message is neither in the mailbox nor fetched. -/
theorem delivered_setRecord {record : TaskRecord}
    (out : state.mailbox.count (.static msgId) = 0) (loose : ¬state.receiver.Holds msgId) :
    state.receiver.underway (state.setRecord msgId record).records =
        state.receiver.underway state.records ∧
      state.mailbox.map (TaskMsg.work (state.setRecord msgId record).records) =
        state.mailbox.map (TaskMsg.work state.records) := by
  have works (msg : TaskMsg) (apart : msg ≠ .static msgId) :
      msg.work (state.setRecord msgId record).records = msg.work state.records := by
    cases msg with
    | static other =>
        have here : other ≠ msgId := fun same => apart (congrArg TaskMsg.static same)
        rw [TaskMsg.work, TaskMsg.work, setRecord_other here]
    | block work => rfl
  constructor
  · cases stage : state.receiver with
    | fetched msg =>
        have apart : msg ≠ .static msgId := by
          rintro rfl
          exact loose (.inl stage)
        rw [ReceiverStage.underway, ReceiverStage.underway, works msg apart]
    | waiting => rfl
    | loaded _ work => rfl
    | running work => rfl
  · apply List.map_congr_left
    intro msg member
    apply works
    rintro rfl
    exact List.count_eq_zero.mp out member

theorem work_setRecord {record : TaskRecord} (same : record.work = (state.records msgId).work) :
    TaskMsg.work (state.setRecord msgId record).records = TaskMsg.work state.records := by
  funext msg
  cases msg with
  | static other => exact setRecord_work same other
  | block work => rfl

theorem underway_setRecord {record : TaskRecord}
    (same : record.work = (state.records msgId).work) :
    state.receiver.underway (state.setRecord msgId record).records =
      state.receiver.underway state.records := by
  cases state.receiver with
  | fetched msg => exact congrArg (fun work => [work msg]) (work_setRecord same)
  | waiting => rfl
  | loaded _ work => rfl
  | running work => rfl

theorem Inv.fill (inv : state.Inv) {function ctx : UInt32} {block : Bool}
    (filling : state.callers task = .fill function ctx block msgId) :
    ((state.setRecord msgId ⟨function, ctx, (state.records msgId).cnt⟩).setCaller task
      (.post (.callbackStatic function ctx block msgId) 0)).Inv := by
  have inside : (state.callers task).Inside msgId := by
    rw [filling]
    rfl
  obtain ⟨_, out, loose⟩ := inv.free_of_inside inside (by rw [filling]; nofun)
  have filled : (state.setRecord msgId ⟨function, ctx, (state.records msgId).cnt⟩).Inv := by
    refine ⟨inv.reported, ?_, inv.alone, ?_, ?_⟩
    · obtain ⟨underway, queued⟩ := delivered_setRecord out loose
      exact inv.delivered.trans (congrArg₂ (state.executed ++ · ++ ·) underway queued).symm
    · intro other
      have fits := inv.stages other
      show StageFits _ (state.callers other)
      cases stage : state.callers other with
      | post call tries =>
          rw [stage] at fits
          intro posted same
          have apart : posted ≠ msgId := by
            rintro rfl
            have here := inv.alone posted other task (by rw [stage]; exact same) inside
            rw [here, filling] at stage
            cases stage
          rw [setRecord_other apart]
          exact fits posted same
      | alloc call =>
          rw [stage] at fits
          exact fits
      | idle => trivial
      | enter call => trivial
      | fill _ _ _ _ => trivial
      | count _ _ => trivial
    · intro other
      exact (inv.phase other).congr (setRecord_cnt (by rfl) other) rfl Iff.rfl
  apply filled.setCaller
  · rintro posted same
    cases same
    rw [setRecord_same]
    rfl
  · intro _ _
    show state.callers task ≠ _
    rw [filling]
    nofun
  · nofun
  · intro posted same
    cases same
    exact .inl inside

def posted (state : TaskState) (call : TaskCall) : TaskState :=
  { state with mailbox := state.mailbox ++ [call.msg], put := state.put ++ [call.work] }

theorem posted_delivered {call : TaskCall} (inv : state.Inv)
    (fits : call.msg.work state.records = call.work) :
    (state.posted call).put =
      (state.posted call).executed ++ (state.posted call).receiver.underway state.records ++
        (state.posted call).mailbox.map (TaskMsg.work state.records) := by
  simp only [posted, List.map_append, List.map_singleton, fits, inv.delivered, List.append_assoc]

theorem posted_count (state : TaskState) (call : TaskCall) (msgId : Fin 8) :
    (state.posted call).mailbox.count (.static msgId) =
      state.mailbox.count (.static msgId) + if call.msg = .static msgId then 1 else 0 := by
  simp [posted, List.count_append, List.count_singleton]

theorem Inv.posted_block (inv : state.Inv) {call : TaskCall} {work : TaskWork}
    (block : call.msg = .block work) (same : work = call.work) : (state.posted call).Inv where
  reported := inv.reported
  delivered := posted_delivered inv (by rw [block, same]; rfl)
  alone := inv.alone
  stages := inv.stages
  phase msgId := (inv.phase msgId).congr rfl (by rw [posted_count, block]; simp) Iff.rfl

theorem Inv.posted_static (inv : state.Inv) {call : TaskCall} {tries : Nat}
    (posting : state.callers task = .post call tries) (static : call.msg = .static msgId) :
    ((state.posted call).setCaller task (.count msgId true)).Inv := by
  have inside : (state.callers task).Inside msgId := by
    rw [posting]
    exact static
  have early (put : Bool) : state.callers task ≠ .count msgId put := by
    rw [posting]
    nofun
  obtain ⟨zero, out, loose⟩ := inv.free_of_inside inside early
  constructor
  case reported => exact inv.reported
  case delivered =>
    apply posted_delivered inv
    have fits := inv.stages task
    rw [posting] at fits
    rw [static]
    exact fits msgId static
  case alone =>
    intro other first second firstInside secondInside
    have before {caller : Nat} (now : (((state.posted call).setCaller task
        (.count msgId true)).callers caller).Inside other) :
        (state.callers caller).Inside other := by
      rcases setCaller_inside now with ⟨rfl, same⟩ | ⟨_, inside⟩
      · cases same
        exact inside
      · exact inside
    exact inv.alone other first second (before firstInside) (before secondInside)
  case stages =>
    intro other
    by_cases same : other = task
    · rw [same, setCaller_same]
      trivial
    · rw [setCaller_other same]
      exact inv.stages other
  case phase =>
    intro other
    have counted := posted_count state call other
    by_cases same : other = msgId
    · subst same
      refine .posted task setCaller_same zero ?_ loose
      rw [static, if_pos rfl, out] at counted
      exact counted
    · have elsewhere : call.msg ≠ .static other := by
        rw [static]
        rintro ⟨⟩
        exact same rfl
      have moved : Phase state.records state.mailbox state.receiver
          (state.setCaller task (.count msgId true)).callers other := by
        apply (inv.phase other).setCaller
        · intro put
          rw [posting]
          nofun
        · rintro put ⟨⟩
          exact same rfl
        · rintro ⟨⟩
          exact absurd rfl same
      exact moved.congr rfl (by rw [if_neg elsewhere] at counted; exact counted) Iff.rfl

theorem StageFits.congr {records records' : Fin 8 → TaskRecord}
    (works : ∀ msgId, (records' msgId).work = (records msgId).work)
    (fits : StageFits records stage) : StageFits records' stage := by
  cases stage with
  | post call tries => exact fun msgId static => (works msgId).trans (fits msgId static)
  | alloc call => exact fits
  | idle => trivial
  | enter call => trivial
  | fill _ _ _ _ => trivial
  | count _ _ => trivial

theorem Inv.counted (inv : state.Inv) {put : Bool}
    (counting : state.callers task = .count msgId put) :
    put = true ∧ (state.records msgId).cnt = 0 ∧ state.mailbox.count (.static msgId) = 1 ∧
      ¬state.receiver.Holds msgId := by
  have inside : (state.callers task).Inside msgId := by
    rw [counting]
    rfl
  cases inv.phase msgId with
  | free _ _ _ uncounted => exact absurd counting (uncounted task put)
  | posted other posted zero once loose =>
      have same := inv.alone msgId task other inside (by rw [posted]; rfl)
      rw [← same, counting] at posted
      cases posted
      exact ⟨rfl, zero, once, loose⟩
  | pending _ _ _ nobody => exact absurd inside (nobody task)
  | fetched _ _ _ nobody => exact absurd inside (nobody task)

theorem Inv.count (inv : state.Inv) {put : Bool}
    (counting : state.callers task = .count msgId put) :
    ((state.setRecord msgId { state.records msgId with
      cnt := (state.records msgId).cnt + 1 }).finish task true put).Inv := by
  obtain ⟨rfl, zero, once, loose⟩ := inv.counted counting
  let counted : TaskRecord :=
    { state.records msgId with cnt := (state.records msgId).cnt + 1 }
  have same : counted.work = (state.records msgId).work := rfl
  have others {other : Nat} {id : Fin 8}
      (inside : ((state.setCaller task .idle).callers other).Inside id) :
      other ≠ task ∧ (state.callers other).Inside id := by
    rcases setCaller_inside inside with ⟨_, idle⟩ | outside
    · cases idle
    · exact outside
  constructor
  case reported =>
    intro result returned
    rcases List.mem_append.mp returned with before | last
    · exact inv.reported result before
    · cases List.mem_singleton.mp last
      rfl
  case delivered =>
    show state.put =
      state.executed ++ state.receiver.underway (state.setRecord msgId counted).records ++
        state.mailbox.map (TaskMsg.work (state.setRecord msgId counted).records)
    rw [underway_setRecord same, work_setRecord same]
    exact inv.delivered
  case alone =>
    intro id first second firstInside secondInside
    exact inv.alone id first second (others firstInside).2 (others secondInside).2
  case stages =>
    intro other
    by_cases here : other = task
    · subst here
      show StageFits _ (Function.update state.callers other .idle other)
      rw [Function.update_self]
      trivial
    · show StageFits _ (Function.update state.callers task .idle other)
      rw [Function.update_of_ne here]
      exact (inv.stages other).congr (setRecord_work same)
  case phase =>
    intro other
    by_cases here : other = msgId
    · subst here
      apply Phase.pending _ once loose
      · intro caller inside
        obtain ⟨apart, before⟩ := others inside
        exact apart (inv.alone other caller task before (by rw [counting]; rfl))
      · show ((state.setRecord other counted).records other).cnt = 1
        rw [setRecord_same]
        show (state.records other).cnt + 1 = 1
        rw [zero]
        rfl
    · have moved : Phase state.records state.mailbox state.receiver
          (state.setCaller task .idle).callers other := by
        apply (inv.phase other).setCaller
        · intro put
          rw [counting]
          rintro ⟨⟩
          exact here rfl
        · nofun
        · nofun
      exact moved.congr (congrArg TaskRecord.cnt (setRecord_other here counted)) rfl Iff.rfl

theorem Inv.postMsg (inv : state.Inv) {call : TaskCall} {tries : Nat}
    (posting : state.callers task = .post call tries)
    (room : state.mailbox.length < state.capacity ∨ call.block = false ∨ tries + 1 < 10) :
    (state.postMsg task call tries).Inv := by
  have early (msgId : Fin 8) (put : Bool) : state.callers task ≠ .count msgId put := by
    rw [posting]
    nofun
  unfold TaskState.postMsg
  by_cases fits : state.mailbox.length < state.capacity
  · rw [if_pos fits]
    show (afterPost (state.posted call) task call true).Inv
    cases call with
    | callbackStatic function ctx block msgId => exact inv.posted_static posting rfl
    | callback function ctx block => exact (inv.posted_block rfl rfl).finish early rfl
    | addTimeout msecs handler arg => exact (inv.posted_block rfl rfl).finish early rfl
    | untimeout handler arg => exact (inv.posted_block rfl rfl).finish early rfl
  · rw [if_neg fits]
    by_cases trying : call.block = false
    · rw [if_pos trying]
      exact inv.finish early rfl
    · have more : tries + 1 < 10 := (room.resolve_left fits).resolve_left trying
      rw [if_neg trying, if_pos more]
      have filled : StageFits state.records (.post call tries) := posting ▸ inv.stages task
      refine inv.setCaller ?_ early ?_ ?_
      · exact filled
      · nofun
      · intro msgId static
        rw [posting]
        exact .inl static

theorem Inv.beginCall (inv : state.Inv) (call : TaskCall) :
    (state.beginCall task call).Inv := by
  unfold TaskState.beginCall
  by_cases idle : state.callers task = .idle
  · rw [if_pos idle]
    refine inv.setCaller trivial ?_ nofun nofun
    rw [idle]
    nofun
  · rwa [if_neg idle]

theorem Inv.callerAct (inv : state.Inv) {action : TaskCall ⊕ Bool}
    (safe : Safe task state action) : (callerAct task state action).Inv := by
  cases action with
  | inl call => exact inv.beginCall call
  | inr memory =>
      show (state.callerStep task memory).Inv
      unfold callerStep
      unfold Safe at safe
      cases stage : state.callers task with
      | idle => exact inv
      | enter call =>
          rw [stage] at safe
          have early (msgId : Fin 8) (put : Bool) : state.callers task ≠ .count msgId put := by
            rw [stage]
            nofun
          have dynamic (plain : ∀ msgId, call.msg ≠ .static msgId) :
              (if state.mboxValid = false then state.finish task false false
                else state.setCaller task (.alloc call)).Inv := by
            split
            · exact inv.finish early rfl
            · exact inv.setCaller plain early nofun nofun
          cases call with
          | callbackStatic function ctx block msgId =>
              dsimp only at safe ⊢
              split
              · exact inv.finish early rfl
              · rename_i free
                have zero : (state.records msgId).cnt = 0 := by
                  have none : ¬0 < (state.records msgId).cnt := fun some => free (.inl some)
                  simpa using none
                refine inv.setCaller ?_ early ?_ ?_
                · trivial
                · nofun
                · rintro _ ⟨⟩
                  exact .inr ⟨zero, safe zero⟩
          | callback function ctx block => exact dynamic nofun
          | addTimeout msecs handler arg => exact dynamic nofun
          | untimeout handler arg => exact dynamic nofun
      | alloc call =>
          have early (msgId : Fin 8) (put : Bool) : state.callers task ≠ .count msgId put := by
            rw [stage]
            nofun
          have plain := inv.stages task
          rw [stage] at plain
          dsimp only
          split
          · refine inv.setCaller ?_ early ?_ ?_
            · exact fun msgId static => absurd static (plain msgId)
            · nofun
            · exact fun msgId static => absurd static (plain msgId)
          · exact inv.finish early rfl
      | fill function ctx block msgId => exact inv.fill stage
      | post call tries =>
          rw [stage] at safe
          exact inv.postMsg stage safe
      | count msgId put => exact inv.count stage

theorem not_holds_waiting (msgId : Fin 8) : ¬ReceiverStage.waiting.Holds msgId := by
  rintro (fetched | ⟨_, loaded⟩)
  · cases fetched
  · cases loaded

theorem not_holds_running (work : TaskWork) (msgId : Fin 8) :
    ¬(ReceiverStage.running work).Holds msgId := by
  rintro (fetched | ⟨_, loaded⟩)
  · cases fetched
  · cases loaded

theorem fetched_holds {msg : TaskMsg} :
    (ReceiverStage.fetched msg).Holds msgId ↔ msg = .static msgId := by
  constructor
  · rintro (fetched | ⟨_, loaded⟩)
    · cases fetched
      rfl
    · cases loaded
  · rintro rfl
    exact .inl rfl

theorem loaded_holds {loaded : Fin 8} {work : TaskWork} :
    (ReceiverStage.loaded loaded work).Holds msgId ↔ loaded = msgId := by
  constructor
  · rintro (fetched | ⟨_, same⟩)
    · cases fetched
    · cases same
      rfl
  · rintro rfl
    exact .inr ⟨work, rfl⟩

/-- The message in front is counted, because no task is about to count it. -/
theorem Inv.fetch (inv : state.Inv) {msg : TaskMsg} {rest : List TaskMsg}
    (waiting : state.receiver = .waiting) (queue : state.mailbox = msg :: rest)
    (uncounted : ∀ task msgId put, state.callers task ≠ .count msgId put) :
    { state with mailbox := rest, receiver := .fetched msg }.Inv where
  reported := inv.reported
  delivered := by
    have before := inv.delivered
    rw [queue] at before
    simpa [ReceiverStage.underway, waiting] using before
  alone := inv.alone
  stages := inv.stages
  phase msgId := by
    have phase := inv.phase msgId
    rw [waiting, queue] at phase
    by_cases front : msg = .static msgId
    · subst front
      cases phase with
      | free _ out _ _ => simp at out
      | posted task counting _ _ _ => exact absurd counting (uncounted task msgId true)
      | pending one once _ nobody =>
          refine .fetched one ?_ (fetched_holds.mpr rfl) nobody
          rw [List.count_cons_self] at once
          exact Nat.succ.inj once
      | fetched _ _ held _ => exact absurd held (not_holds_waiting msgId)
    · apply phase.congr rfl
      · rw [List.count_cons_of_ne front]
      · exact iff_of_false (mt fetched_holds.mp front) (not_holds_waiting msgId)

theorem Inv.load (inv : state.Inv) (fetched : state.receiver = .fetched (.static msgId)) :
    { state with receiver := .loaded msgId (state.records msgId).work }.Inv where
  reported := inv.reported
  delivered := by
    have before := inv.delivered
    simpa [ReceiverStage.underway, fetched, TaskMsg.work] using before
  alone := inv.alone
  stages := inv.stages
  phase other := by
    have phase := inv.phase other
    rw [fetched] at phase
    apply phase.congr rfl rfl
    rw [loaded_holds, fetched_holds, TaskMsg.static.injEq]

theorem Inv.run (inv : state.Inv) {work : TaskWork}
    (fetched : state.receiver = .fetched (.block work)) :
    { state with receiver := .running work }.Inv where
  reported := inv.reported
  delivered := by
    have before := inv.delivered
    simpa [ReceiverStage.underway, fetched, TaskMsg.work] using before
  alone := inv.alone
  stages := inv.stages
  phase msgId := by
    have phase := inv.phase msgId
    rw [fetched] at phase
    exact phase.congr rfl rfl
      (iff_of_false (not_holds_running work msgId) (mt fetched_holds.mp nofun))

theorem Inv.uncount (inv : state.Inv) {work : TaskWork}
    (loaded : state.receiver = .loaded msgId work) :
    { state.setRecord msgId { state.records msgId with cnt := (state.records msgId).cnt - 1 } with
      receiver := .running work }.Inv := by
  let uncounted : TaskRecord :=
    { state.records msgId with cnt := (state.records msgId).cnt - 1 }
  have same : uncounted.work = (state.records msgId).work := rfl
  have held : state.receiver.Holds msgId := .inr ⟨work, loaded⟩
  constructor
  case reported => exact inv.reported
  case delivered =>
    have before := inv.delivered
    show state.put = state.executed ++ [work] ++
      state.mailbox.map (TaskMsg.work (state.setRecord msgId uncounted).records)
    rw [work_setRecord same]
    simpa [ReceiverStage.underway, loaded] using before
  case alone => exact inv.alone
  case stages => exact fun task => (inv.stages task).congr (setRecord_work same)
  case phase =>
    intro other
    have phase := inv.phase other
    by_cases here : other = msgId
    · subst here
      cases phase with
      | free _ _ loose _ => exact absurd held loose
      | posted _ _ _ _ loose => exact absurd held loose
      | pending _ _ loose _ => exact absurd held loose
      | fetched one out _ nobody =>
          refine .free ?_ out (not_holds_running work other) ?_
          · show ((state.setRecord other uncounted).records other).cnt = 0
            rw [setRecord_same]
            show (state.records other).cnt - 1 = 0
            rw [one]
            rfl
          · intro task put counting
            have counted : state.callers task = .count other put := counting
            exact nobody task (by rw [counted]; rfl)
    · rw [loaded] at phase
      apply phase.congr (congrArg TaskRecord.cnt (setRecord_other here uncounted)) rfl
      exact iff_of_false (not_holds_running work other) (mt loaded_holds.mp (Ne.symm here))

theorem Inv.done (inv : state.Inv) {work : TaskWork} (running : state.receiver = .running work) :
    { state with receiver := .waiting, executed := state.executed ++ [work] }.Inv where
  reported := inv.reported
  delivered := by
    have before := inv.delivered
    simpa [ReceiverStage.underway, running] using before
  alone := inv.alone
  stages := inv.stages
  phase msgId := by
    have phase := inv.phase msgId
    rw [running] at phase
    exact phase.congr rfl rfl
      (iff_of_false (not_holds_waiting msgId) (not_holds_running work msgId))

theorem Inv.receiverStep (inv : state.Inv)
    (uncounted : ∀ task msgId put, state.callers task ≠ .count msgId put) :
    state.receiverStep.Inv := by
  unfold TaskState.receiverStep
  cases stage : state.receiver with
  | waiting =>
      cases queue : state.mailbox with
      | nil => exact inv
      | cons msg rest => exact inv.fetch stage queue uncounted
  | fetched msg =>
      cases msg with
      | static msgId => exact inv.load stage
      | block work => exact inv.run stage
  | loaded msgId work => exact inv.uncount stage
  | running work => exact inv.done stage

def work (state : TaskState) : List TaskWork :=
  state.executed ++ state.receiver.underway state.records ++
    state.mailbox.map (TaskMsg.work state.records)

def stepsLeft (state : TaskState) : Nat :=
  4 * state.mailbox.length +
    match state.receiver with
    | .waiting => 0
    | .fetched _ => 3
    | .loaded _ _ => 2
    | .running _ => 1

theorem receiverStep_work (state : TaskState) : state.receiverStep.work = state.work := by
  unfold receiverStep
  cases stage : state.receiver with
  | waiting =>
      cases queue : state.mailbox with
      | nil => rfl
      | cons msg rest => simp [work, stage, queue, ReceiverStage.underway]
  | fetched msg =>
      cases msg with
      | static msgId => simp [work, stage, ReceiverStage.underway, TaskMsg.work]
      | block work => simp [TaskState.work, stage, ReceiverStage.underway, TaskMsg.work]
  | loaded msgId work =>
      let uncounted : TaskRecord :=
        { state.records msgId with cnt := (state.records msgId).cnt - 1 }
      have same : uncounted.work = (state.records msgId).work := rfl
      show state.executed ++ [work] ++
        state.mailbox.map (TaskMsg.work (state.setRecord msgId uncounted).records) = _
      rw [work_setRecord same]
      simp [TaskState.work, stage, ReceiverStage.underway]
  | running work => simp [TaskState.work, stage, ReceiverStage.underway]

theorem receiverStep_stepsLeft (busy : 0 < state.stepsLeft) :
    state.receiverStep.stepsLeft < state.stepsLeft := by
  unfold receiverStep
  cases stage : state.receiver with
  | waiting =>
      cases queue : state.mailbox with
      | nil => simp [stepsLeft, stage, queue] at busy
      | cons msg rest =>
          simp only [stepsLeft, stage, queue, List.length_cons]
          omega
  | fetched msg =>
      cases msg with
      | static msgId => simp [stepsLeft, stage]
      | block work => simp [stepsLeft, stage]
  | loaded msgId work => simp [stepsLeft, stage, setRecord]
  | running work => simp [stepsLeft, stage]

/-- Left alone, the receiver does everything that is under way or waiting. -/
theorem drains (state : TaskState) :
    ∃ count, (receiverStep^[count] state).executed = state.work := by
  induction steps : state.stepsLeft using Nat.strongRecOn generalizing state with
  | ind steps ih =>
      by_cases busy : 0 < state.stepsLeft
      · obtain ⟨count, done⟩ := ih _ (steps ▸ receiverStep_stepsLeft busy) state.receiverStep rfl
        exact ⟨count + 1, done.trans state.receiverStep_work⟩
      · refine ⟨0, ?_⟩
        have idle : 4 * state.mailbox.length ≤ state.stepsLeft := Nat.le_add_right ..
        have empty : state.mailbox = [] := List.length_eq_zero_iff.mp (by omega)
        cases stage : state.receiver with
        | waiting => simp [work, stage, empty, ReceiverStage.underway]
        | fetched msg => simp [stepsLeft, stage] at busy
        | loaded msgId work => simp [stepsLeft, stage] at busy
        | running work => simp [stepsLeft, stage] at busy

/-- Nobody has been stopped where the count is not settled. -/
structure Quiet (state : TaskState) : Prop where
  callers : ∀ task msgId put, state.callers task ≠ .count msgId put
  receiver : ∀ msgId, ¬state.receiver.Holds msgId

theorem Inv.sound (inv : state.Inv) (quiet : state.Quiet) : state.Sound where
  reported := inv.reported
  delivered := inv.delivered
  drained := by
    obtain ⟨count, done⟩ := state.drains
    exact ⟨count, done.trans inv.delivered.symm⟩
  pending msgId := by
    cases inv.phase msgId with
    | free zero out _ _ =>
        rw [zero]
        exact iff_of_false (by decide) (List.count_eq_zero.mp out)
    | posted task counting _ _ _ => exact absurd counting (quiet.callers task msgId true)
    | pending one once _ _ =>
        rw [one]
        exact iff_of_true (by decide) (List.count_pos_iff.mp (by omega))
    | fetched _ _ held _ => exact absurd held (quiet.receiver msgId)

theorem callerAct_frame (task : Nat) (state : TaskState) (action : TaskCall ⊕ Bool) :
    (callerAct task state action).receiver = state.receiver ∧
      ∀ other, other ≠ task →
        (callerAct task state action).callers other = state.callers other := by
  have moves (state : TaskState) (stage : CallerStage) (other : Nat) (apart : other ≠ task) :
      (state.setCaller task stage).callers other = state.callers other :=
    Function.update_of_ne apart ..
  have ends (state : TaskState) (success put : Bool) (other : Nat) (apart : other ≠ task) :
      (state.finish task success put).callers other = state.callers other :=
    Function.update_of_ne apart ..
  have posts (state : TaskState) (call : TaskCall) (put : Bool) :
      (state.afterPost task call put).receiver = state.receiver ∧
        ∀ other, other ≠ task →
          (state.afterPost task call put).callers other = state.callers other := by
    cases call with
    | callbackStatic _ _ _ msgId => exact ⟨rfl, moves _ _⟩
    | callback _ _ _ => exact ⟨rfl, ends _ _ _⟩
    | addTimeout _ _ _ => exact ⟨rfl, ends _ _ _⟩
    | untimeout _ _ => exact ⟨rfl, ends _ _ _⟩
  cases action with
  | inl call =>
      dsimp only [callerAct, beginCall]
      split
      · exact ⟨rfl, moves _ _⟩
      · exact ⟨rfl, fun _ _ => rfl⟩
  | inr memory =>
      dsimp only [callerAct, callerStep]
      split
      · exact ⟨rfl, fun _ _ => rfl⟩
      · split
        · exact ⟨rfl, ends _ _ _⟩
        · exact ⟨rfl, moves _ _⟩
      · split
        · exact ⟨rfl, ends _ _ _⟩
        · exact ⟨rfl, moves _ _⟩
      · split
        · exact ⟨rfl, moves _ _⟩
        · exact ⟨rfl, ends _ _ _⟩
      · exact ⟨rfl, moves _ _⟩
      · unfold TaskState.postMsg
        split
        · exact posts _ _ _
        · split
          · exact ⟨rfl, ends _ _ _⟩
          · split
            · exact ⟨rfl, moves _ _⟩
            · exact posts _ _ _
      · exact ⟨rfl, ends _ _ _⟩

theorem foldl_callerAct_frame (task : Nat) (state : TaskState) (actions : List (TaskCall ⊕ Bool)) :
    (actions.foldl (callerAct task) state).receiver = state.receiver ∧
      ∀ other, other ≠ task →
        (actions.foldl (callerAct task) state).callers other = state.callers other := by
  induction actions generalizing state with
  | nil => exact ⟨rfl, fun _ _ => rfl⟩
  | cons action rest ih =>
      obtain ⟨receiver, callers⟩ := ih (callerAct task state action)
      obtain ⟨sameReceiver, sameCallers⟩ := callerAct_frame task state action
      refine ⟨receiver.trans sameReceiver, ?_⟩
      intro other apart
      exact (callers other apart).trans (sameCallers other apart)

theorem Inv.callerRun {actions : List (TaskCall ⊕ Bool)} (inv : state.Inv)
    (safe : Runs.Along (TaskState.callerAct task) (Safe task) state actions) :
    (actions.foldl (TaskState.callerAct task) state).Inv := by
  induction actions generalizing state with
  | nil => exact inv
  | cons action rest ih => exact ih (inv.callerAct safe.1) safe.2

theorem receiverStep_callers (state : TaskState) : state.receiverStep.callers = state.callers := by
  unfold receiverStep
  split
  · split <;> rfl
  · rfl
  · rfl
  · rfl
  · rfl

theorem iterate_receiverStep_callers (state : TaskState) (count : Nat) :
    (receiverStep^[count] state).callers = state.callers := by
  induction count generalizing state with
  | zero => rfl
  | succ count ih => exact (ih state.receiverStep).trans state.receiverStep_callers

theorem Inv.receiverRun (inv : state.Inv)
    (uncounted : ∀ task msgId put, state.callers task ≠ .count msgId put) (count : Nat) :
    (TaskState.receiverStep^[count] state).Inv := by
  induction count generalizing state with
  | zero => exact inv
  | succ count ih =>
      refine ih (inv.receiverStep uncounted) ?_
      rwa [receiverStep_callers]

theorem runSlice_caller_callers {actions : List (TaskCall ⊕ Bool)} {other : Nat}
    (apart : other ≠ task) :
    (state.runSlice (.caller task actions)).callers other = state.callers other :=
  (foldl_callerAct_frame task state actions).2 other apart

theorem runSlice_receiver_callers (count : Nat) :
    (state.runSlice (.receiver count)).callers = state.callers :=
  iterate_receiverStep_callers state count

theorem runSlice_kept (kept : state.Inv ∧ state.Quiet) {slice : TaskSlice}
    (undisturbed : state.Undisturbed slice) :
    (state.runSlice slice).Inv ∧ (state.runSlice slice).Quiet := by
  obtain ⟨inv, quiet⟩ := kept
  cases slice with
  | caller task actions =>
      obtain ⟨safe, settled⟩ := undisturbed
      have receiver := (foldl_callerAct_frame task state actions).1
      refine ⟨inv.callerRun safe, ?_, ?_⟩
      · intro other
        by_cases same : other = task
        · rw [same]
          exact settled
        · rw [runSlice_caller_callers same]
          exact quiet.callers other
      · show ∀ msgId, ¬(actions.foldl (callerAct task) state).receiver.Holds msgId
        rw [receiver]
        exact quiet.receiver
  | receiver count =>
      refine ⟨inv.receiverRun quiet.callers count, ?_, undisturbed⟩
      rw [runSlice_receiver_callers]
      exact quiet.callers

theorem fresh_kept (capacity : Nat) (mboxValid : Bool) :
    (fresh capacity mboxValid).Inv ∧ (fresh capacity mboxValid).Quiet where
  left :=
    { reported := nofun
      delivered := rfl
      alone := nofun
      stages := fun _ => trivial
      phase := fun msgId => .free rfl rfl (not_holds_waiting msgId) nofun }
  right := ⟨nofun, not_holds_waiting⟩

/-- Any number of tasks, a mailbox of any size: in a run that is never disturbed, every state
between two slices is sound. -/
theorem task_messages_sound (capacity : Nat) (mboxValid : Bool) (slices : List TaskSlice)
    (undisturbed : Runs.Along runSlice Undisturbed (fresh capacity mboxValid) slices)
    (before after : List TaskSlice) (split : slices = before ++ after) :
    (before.foldl runSlice (fresh capacity mboxValid)).Sound := by
  have kept := @Runs.reached_of_along _ _ _ (fun state => state.Inv ∧ state.Quiet) _
    (fun _ _ kept => runSlice_kept kept) _ (fresh_kept capacity mboxValid) _ undisturbed _ _ split
  exact kept.1.sound kept.2

/-- The second task waits for the only place in the mailbox, and the third one uses the record
of the first one again. -/
def threeCallers : List TaskSlice :=
  [.caller 0 (.inl (.callbackStatic 7 9 true 3) :: List.replicate 4 (.inr true)),
    .caller 1 (.inl (.callback 1 2 true) :: List.replicate 3 (.inr true)), .receiver 4,
    .caller 1 [.inr true], .receiver 3,
    .caller 2 (.inl (.callbackStatic 4 4 true 3) :: List.replicate 4 (.inr true)), .receiver 4]

theorem threeCallers_undisturbed :
    Runs.Along runSlice Undisturbed (fresh 1 true) threeCallers := by
  have returned {state : TaskState} {task : Nat} (idle : state.callers task = .idle) :
      ∀ msgId put, state.callers task ≠ .count msgId put := by
    rw [idle]
    nofun
  have waits {state : TaskState} (waiting : state.receiver = .waiting) :
      ∀ msgId, ¬state.receiver.Holds msgId := by
    rw [waiting]
    exact not_holds_waiting
  have outside {state : TaskState} {other : Nat} (idle : state.callers other = .idle) :
      ¬(state.callers other).Inside 3 := by
    rw [idle]
    exact id
  refine ⟨⟨⟨trivial, ?_, trivial, .inl (by decide), trivial, trivial⟩, returned (by decide)⟩,
    ⟨⟨trivial, trivial, trivial, .inr (.inr (by decide)), trivial⟩, ?_⟩, waits (by decide),
    ⟨⟨.inl (by decide), trivial⟩, returned (by decide)⟩, waits (by decide),
    ⟨⟨trivial, ?_, trivial, .inl (by decide), trivial, trivial⟩, returned (by decide)⟩,
    waits (by decide), trivial⟩
  · intro _ other apart
    exact outside ((callerAct_frame 0 _ _).2 other apart)
  · intro msgId put counts
    have posting : (([.caller 0 (.inl (.callbackStatic 7 9 true 3) :: List.replicate 4 (.inr true)),
        .caller 1 (.inl (.callback 1 2 true) :: List.replicate 3 (.inr true))].foldl
          runSlice (fresh 1 true)).callers 1) = .post (.callback 1 2 true) 1 := by decide
    exact nomatch posting.symm.trans counts
  · intro _ other apart
    refine outside (((callerAct_frame 2 _ _).2 other apart).trans ?_)
    by_cases first : other = 0
    · subst first
      decide
    · by_cases second : other = 1
      · subst second
        decide
      · rw [runSlice_receiver_callers, runSlice_caller_callers second, runSlice_receiver_callers,
          runSlice_caller_callers second, runSlice_caller_callers first]
        rfl

theorem task_messages_sound_threeCallers :
    (threeCallers.foldl runSlice (fresh 1 true)).Sound ∧
      (threeCallers.foldl runSlice (fresh 1 true)).executed =
        [.callback 7 9, .callback 1 2, .callback 4 4] :=
  ⟨task_messages_sound 1 true threeCallers threeCallers_undisturbed _ [] (List.append_nil _).symm,
    by decide⟩

/-- The mailbox is full. The blocking call gives up after ten attempts and reports success, and its
id is counted for ever. -/
theorem full_mailbox_not_sound :
    ¬([.caller 0 (.inl (.callback 1 2 false) :: List.replicate 3 (.inr true)),
      .caller 1 (.inl (.callbackStatic 7 9 true 3) :: List.replicate 13 (.inr true))].foldl
        runSlice (fresh 1 true)).Sound := by
  intro sound
  exact absurd ((sound.pending 3).mp (by decide)) (by decide)

end TaskState

end SmartMeter
