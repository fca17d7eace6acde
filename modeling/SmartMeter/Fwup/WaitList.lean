import SmartMeter.Library.Runs

/-!
The wait list of `wm_fwup.c` between the clients of `tls_fwup_request_async` and the scheduler
task. A request is known by the number of requests accepted before it.
-/

namespace SmartMeter

/-- `blocked` is the wait for a message; `none` for a next element that is the list head. -/
inductive SchedulerPhase
  | blocked
  | woken
  | holding (request : Nat) (temp : Option Nat)
  | processed (request : Nat) (temp : Option Nat)
  | removed (temp : Option Nat)
deriving DecidableEq

/-- `posting` counts the clients that have appended to an empty list and not yet posted. -/
structure WaitState where
  waitList : List Nat
  accepted : Nat
  posting : Nat
  queue : Nat
  phase : SchedulerPhase
  finished : List Nat
deriving DecidableEq

namespace WaitState

def init : WaitState :=
  ⟨[], 0, 0, 0, .blocked, []⟩

def nextOf (request : Nat) (list : List Nat) : Option Nat :=
  (list.dropWhile (· ≠ request)).tail.head?

def append (state : WaitState) : WaitState :=
  { state with
    waitList := state.waitList ++ [state.accepted]
    accepted := state.accepted + 1
    posting := if state.waitList = [] then state.posting + 1 else state.posting }

/-- A message to a queue that holds four already is lost. -/
def post (state : WaitState) : WaitState :=
  if state.posting = 0 then state
  else { state with
    posting := state.posting - 1
    queue := if state.queue < 4 then state.queue + 1 else state.queue }

def schedule (state : WaitState) : WaitState :=
  match state.phase with
  | .blocked =>
      if state.queue = 0 then state else { state with queue := state.queue - 1, phase := .woken }
  | .woken =>
      match state.waitList with
      | [] => { state with phase := .blocked }
      | request :: _ => { state with phase := .holding request (nextOf request state.waitList) }
  | .holding request temp =>
      { state with finished := state.finished ++ [request], phase := .processed request temp }
  | .processed request temp =>
      { state with waitList := state.waitList.erase request, phase := .removed temp }
  | .removed none => { state with phase := .blocked }
  | .removed (some request) =>
      { state with phase := .holding request (nextOf request state.waitList) }

end WaitState

inductive WaitStep
  | append
  | post
  | schedule

def WaitState.step (state : WaitState) : WaitStep → WaitState
  | .append => state.append
  | .post => state.post
  | .schedule => state.schedule

namespace WaitState

/-- The scheduler waits for a message, and none is in the queue or on its way to it. -/
def Blocked (state : WaitState) : Prop :=
  state.phase = .blocked ∧ state.queue = 0 ∧ state.posting = 0

/-- The scheduler has taken the list head for the element after the current one, which is still
in the list. -/
def LastTaken (state : WaitState) : Prop :=
  ∃ request, state.phase = .holding request none ∨ state.phase = .processed request none

/-- No request is appended behind the last element once the scheduler has looked past it. -/
def NoLateAppend (state : WaitState) : WaitStep → Prop
  | .append => ¬state.LastTaken
  | _ => True

def scheduled (state : WaitState) (count : Nat) : WaitState :=
  (List.replicate count WaitStep.schedule).foldl step state

def posted (state : WaitState) : WaitState :=
  (List.replicate state.posting WaitStep.post).foldl step state

def Announced (state : WaitState) : Prop :=
  state.posting + state.queue = if state.waitList = [] then 0 else 1

def unserved (state : WaitState) : List Nat :=
  match state.phase with
  | .processed _ _ => state.waitList.tail
  | _ => state.waitList

/-- What the phase says about the list and the messages. -/
def Coherent (state : WaitState) : Prop :=
  match state.phase with
  | .blocked => state.Announced
  | .woken => state.posting + state.queue = 0 ∧ state.waitList ≠ []
  | .holding request temp => state.posting + state.queue = 0 ∧
      ∃ rest, state.waitList = request :: rest ∧ temp = rest.head?
  | .processed request temp => state.posting + state.queue = 0 ∧
      ∃ rest, state.waitList = request :: rest ∧ temp = rest.head?
  | .removed none => state.Announced
  | .removed (some request) => state.posting + state.queue = 0 ∧
      state.waitList.head? = some request

/-- The requests get their statuses in the order in which they were accepted. -/
structure Consistent (state : WaitState) : Prop where
  coherent : state.Coherent
  served : state.finished ++ state.unserved = List.range state.accepted

theorem init_consistent : init.Consistent := ⟨rfl, rfl⟩

theorem nextOf_head (request : Nat) (rest : List Nat) :
    nextOf request (request :: rest) = rest.head? := by
  simp [nextOf]

theorem announced_append {state : WaitState} (announced : state.Announced) :
    state.append.Announced := by
  unfold Announced append at *
  by_cases empty : state.waitList = []
  · simp only [empty, if_pos] at announced ⊢
    simp
    omega
  · simp [empty] at announced ⊢
    omega

theorem append_coherent {state : WaitState} (coherent : state.Coherent)
    (early : ¬state.LastTaken) : state.append.Coherent := by
  obtain ⟨waitList, accepted, posting, queue, phase, finished⟩ := state
  cases phase with
  | blocked => exact announced_append coherent
  | woken =>
      obtain ⟨silent, waiting⟩ := coherent
      refine ⟨?_, List.append_ne_nil_of_left_ne_nil waiting _⟩
      simpa [append, waiting] using silent
  | holding request temp =>
      obtain ⟨silent, rest, rfl, rfl⟩ := coherent
      refine ⟨by simpa [append] using silent, rest ++ [accepted], rfl, ?_⟩
      cases rest with
      | nil => exact absurd ⟨request, .inl rfl⟩ early
      | cons next rest => rfl
  | processed request temp =>
      obtain ⟨silent, rest, rfl, rfl⟩ := coherent
      refine ⟨by simpa [append] using silent, rest ++ [accepted], rfl, ?_⟩
      cases rest with
      | nil => exact absurd ⟨request, .inr rfl⟩ early
      | cons next rest => rfl
  | removed temp =>
      cases temp with
      | none => exact announced_append coherent
      | some request =>
          obtain ⟨silent, first⟩ := coherent
          cases waitList with
          | nil => cases first
          | cons head rest => exact ⟨by simpa [append] using silent, first⟩

theorem append_unserved {state : WaitState} (coherent : state.Coherent) :
    state.append.unserved = state.unserved ++ [state.accepted] := by
  obtain ⟨waitList, accepted, posting, queue, phase, finished⟩ := state
  cases phase with
  | processed request temp =>
      obtain ⟨_, rest, rfl, _⟩ := coherent
      rfl
  | _ => rfl

theorem append_consistent {state : WaitState} (consistent : state.Consistent)
    (early : ¬state.LastTaken) : state.append.Consistent := by
  refine ⟨append_coherent consistent.coherent early, ?_⟩
  rw [append_unserved consistent.coherent, ← List.append_assoc]
  show (state.finished ++ state.unserved) ++ _ = List.range (state.accepted + 1)
  rw [consistent.served, List.range_succ]

/-- A post moves the message into the queue, which has room for it. -/
theorem post_sum {state : WaitState} (bound : state.posting + state.queue ≤ 1) :
    state.post.posting + state.post.queue = state.posting + state.queue := by
  rw [post]
  split
  · rfl
  · dsimp only
    rw [if_pos (by omega)]
    omega

theorem post_waitList (state : WaitState) : state.post.waitList = state.waitList ∧
    state.post.phase = state.phase ∧ state.post.finished = state.finished ∧
      state.post.accepted = state.accepted := by
  rw [post]
  split
  · exact ⟨rfl, rfl, rfl, rfl⟩
  · exact ⟨rfl, rfl, rfl, rfl⟩

theorem Coherent.bound {state : WaitState} (coherent : state.Coherent) :
    state.posting + state.queue ≤ 1 := by
  have announced (announced : state.Announced) : state.posting + state.queue ≤ 1 := by
    rw [announced]
    split
    · omega
    · omega
  unfold Coherent at coherent
  split at coherent
  · exact announced coherent
  · omega
  · omega
  · omega
  · exact announced coherent
  · omega

theorem post_consistent {state : WaitState} (consistent : state.Consistent) :
    state.post.Consistent := by
  obtain ⟨coherent, served⟩ := consistent
  have sum := post_sum coherent.bound
  obtain ⟨waitList, phase, finished, accepted⟩ := post_waitList state
  refine ⟨?_, ?_⟩
  · simp only [Coherent, Announced, phase, waitList, sum] at coherent ⊢
    exact coherent
  · simp only [unserved, phase, waitList, finished, accepted] at served ⊢
    exact served

theorem schedule_consistent {state : WaitState} (consistent : state.Consistent) :
    state.schedule.Consistent := by
  obtain ⟨waitList, accepted, posting, queue, phase, finished⟩ := state
  obtain ⟨coherent, served⟩ := consistent
  cases phase with
  | blocked =>
      rw [schedule]
      dsimp only
      split
      · exact ⟨coherent, served⟩
      · have announced : posting + queue = if waitList = [] then 0 else 1 := coherent
        split at announced
        · omega
        · rename_i waiting
          refine ⟨⟨?_, waiting⟩, served⟩
          show posting + (queue - 1) = 0
          omega
  | woken =>
      obtain ⟨silent, waiting⟩ := coherent
      cases waitList with
      | nil => exact absurd rfl waiting
      | cons request rest => exact ⟨⟨silent, rest, rfl, nextOf_head request rest⟩, served⟩
  | holding request temp =>
      obtain ⟨silent, rest, rfl, rfl⟩ := coherent
      refine ⟨⟨silent, rest, rfl, rfl⟩, ?_⟩
      exact (List.append_assoc finished [request] rest).trans served
  | processed request temp =>
      obtain ⟨silent, rest, rfl, rfl⟩ := coherent
      have left : (request :: rest).erase request = rest := List.erase_cons_head ..
      rw [schedule]
      simp only [left]
      cases rest with
      | nil => exact ⟨silent, served⟩
      | cons next rest => exact ⟨⟨silent, rfl⟩, served⟩
  | removed temp =>
      cases temp with
      | none => exact ⟨coherent, served⟩
      | some request =>
          obtain ⟨silent, first⟩ := coherent
          obtain ⟨rest, rfl⟩ : ∃ rest, waitList = request :: rest := by
            cases waitList with
            | nil => cases first
            | cons head rest =>
                cases first
                exact ⟨rest, rfl⟩
          exact ⟨⟨silent, rest, rfl, nextOf_head request rest⟩, served⟩

theorem step_consistent {state : WaitState} (consistent : state.Consistent) {step : WaitStep}
    (early : state.NoLateAppend step) : (state.step step).Consistent := by
  cases step with
  | append => exact append_consistent consistent early
  | post => exact post_consistent consistent
  | schedule => exact schedule_consistent consistent

theorem run_consistent {state : WaitState} (consistent : state.Consistent) {steps : List WaitStep}
    (early : Runs.Along step NoLateAppend state steps) : (steps.foldl step state).Consistent := by
  induction steps generalizing state with
  | nil => exact consistent
  | cons step rest ih => exact ih (step_consistent consistent early.1) early.2

theorem Consistent.waitList_eq_nil {state : WaitState} (consistent : state.Consistent)
    (blocked : state.Blocked) : state.waitList = [] := by
  obtain ⟨phase, queue, posting⟩ := blocked
  have announced := consistent.coherent
  simp only [Coherent, phase, Announced, queue, posting] at announced
  split at announced
  · assumption
  · omega

theorem scheduled_add (state : WaitState) (first second : Nat) :
    state.scheduled (first + second) = (state.scheduled first).scheduled second := by
  rw [scheduled, ← List.replicate_append_replicate, List.foldl_append]
  rfl

/-- The scheduler serves what is in the list, one element after the other. -/
theorem drain_holding (rest : List Nat) (request accepted : Nat) (finished : List Nat) :
    ∃ count, (WaitState.mk (request :: rest) accepted 0 0 (.holding request rest.head?)
      finished).scheduled count =
        ⟨[], accepted, 0, 0, .blocked, finished ++ request :: rest⟩ := by
  induction rest generalizing request finished with
  | nil =>
      refine ⟨3, ?_⟩
      simp [scheduled, List.replicate, step, schedule]
  | cons next rest ih =>
      obtain ⟨count, drained⟩ := ih next (finished ++ [request])
      refine ⟨3 + count, ?_⟩
      rw [scheduled_add]
      have through : (WaitState.mk (request :: next :: rest) accepted 0 0
          (.holding request (next :: rest).head?) finished).scheduled 3 =
            ⟨next :: rest, accepted, 0, 0, .holding next rest.head?, finished ++ [request]⟩ := by
        simp [scheduled, List.replicate, step, schedule, nextOf_head]
      rw [through, drained, List.append_assoc]
      rfl

/-- The scheduler alone gives every request its status and blocks. -/
def Drains (state : WaitState) : Prop :=
  ∃ count, (state.scheduled count).Blocked ∧
    (state.scheduled count).finished = List.range state.accepted

theorem schedule_accepted (state : WaitState) : state.schedule.accepted = state.accepted := by
  unfold schedule
  repeat' split
  all_goals rfl

theorem Drains.of_schedule {state : WaitState} (drains : state.schedule.Drains) :
    state.Drains := by
  obtain ⟨count, blocked, finished⟩ := drains
  have first : state.scheduled (1 + count) = state.schedule.scheduled count := scheduled_add state 1 count
  refine ⟨1 + count, ?_, ?_⟩
  · rw [first]
    exact blocked
  · rw [first, finished, schedule_accepted]

theorem drains_holding {waitList finished : List Nat} {accepted request : Nat}
    {temp : Option Nat}
    (consistent : (WaitState.mk waitList accepted 0 0 (.holding request temp) finished).Consistent) :
    (WaitState.mk waitList accepted 0 0 (.holding request temp) finished).Drains := by
  obtain ⟨⟨_, rest, rfl, rfl⟩, served⟩ := consistent
  obtain ⟨count, drained⟩ := drain_holding rest request accepted finished
  refine ⟨count, ?_, ?_⟩
  · rw [drained]
    exact ⟨rfl, rfl, rfl⟩
  · rw [drained]
    exact served

theorem drains_blocked {waitList finished : List Nat} {accepted queue : Nat}
    (consistent : (WaitState.mk waitList accepted 0 queue .blocked finished).Consistent) :
    (WaitState.mk waitList accepted 0 queue .blocked finished).Drains := by
  have announced : 0 + queue = if waitList = [] then 0 else 1 := consistent.coherent
  cases waitList with
  | nil =>
      have served : finished ++ [] = List.range accepted := consistent.served
      refine ⟨0, ⟨rfl, ?_, rfl⟩, ?_⟩
      · show queue = 0
        simpa using announced
      · show finished = List.range accepted
        simpa using served
  | cons request rest =>
      have one : queue = 1 := by simpa using announced
      subst one
      apply Drains.of_schedule
      apply Drains.of_schedule
      exact drains_holding (schedule_consistent (schedule_consistent consistent))

theorem Consistent.drains {state : WaitState} (consistent : state.Consistent)
    (quiet : state.posting = 0) : state.Drains := by
  obtain ⟨waitList, accepted, posting, queue, phase, finished⟩ := state
  cases quiet
  have next := schedule_consistent consistent
  cases phase with
  | blocked => exact drains_blocked consistent
  | woken =>
      obtain ⟨⟨silent, waiting⟩, _⟩ := consistent
      obtain rfl : queue = 0 := by simpa using silent
      cases waitList with
      | nil => exact absurd rfl waiting
      | cons request rest =>
          apply Drains.of_schedule
          exact drains_holding next
  | holding request temp =>
      obtain rfl : queue = 0 := by simpa using consistent.coherent.1
      exact drains_holding consistent
  | processed request temp =>
      obtain rfl : queue = 0 := by simpa using consistent.coherent.1
      have later := schedule_consistent next
      obtain ⟨_, rest, rfl, rfl⟩ := consistent.coherent
      cases rest with
      | nil =>
          apply Drains.of_schedule
          apply Drains.of_schedule
          exact drains_blocked later
      | cons second rest =>
          apply Drains.of_schedule
          apply Drains.of_schedule
          exact drains_holding later
  | removed temp =>
      cases temp with
      | none =>
          apply Drains.of_schedule
          exact drains_blocked next
      | some request =>
          obtain rfl : queue = 0 := by simpa using consistent.coherent.1
          apply Drains.of_schedule
          exact drains_holding next

theorem posted_consistent {state : WaitState} (consistent : state.Consistent) :
    state.posted.Consistent ∧ state.posted.posting = 0 ∧
      state.posted.accepted = state.accepted := by
  have bound := consistent.coherent.bound
  have some_posting : state.posting = 0 ∨ state.posting = 1 := by omega
  rcases some_posting with none | one
  · rw [posted, none]
    exact ⟨consistent, none, rfl⟩
  · rw [posted, one]
    refine ⟨post_consistent consistent, ?_, (post_waitList state).2.2.2⟩
    show state.post.posting = 0
    rw [post, if_neg (by omega)]
    show state.posting - 1 = 0
    omega

end WaitState

/-- In every run without a late append the wait list is empty when the scheduler blocks, and in
every state reached the posts under way and the scheduler's own steps serve every request. -/
theorem waiting_requests_served (steps : List WaitStep)
    (early : Runs.Along WaitState.step WaitState.NoLateAppend WaitState.init steps)
    (before after : List WaitStep) (split : steps = before ++ after) :
    let state := before.foldl WaitState.step WaitState.init
    (state.Blocked → state.waitList = []) ∧
      ∃ count, (state.posted.scheduled count).Blocked ∧
        ∀ request < state.accepted, request ∈ (state.posted.scheduled count).finished := by
  subst split
  have consistent := WaitState.run_consistent WaitState.init_consistent
    ((Runs.along_append WaitState.init before after).mp early).1
  refine ⟨consistent.waitList_eq_nil, ?_⟩
  obtain ⟨posted, quiet, accepted⟩ := WaitState.posted_consistent consistent
  obtain ⟨count, blocked, finished⟩ := posted.drains quiet
  refine ⟨count, blocked, ?_⟩
  intro request bound
  rw [finished, accepted]
  exact List.mem_range.mpr bound

theorem waiting_requests_served_two :
    let state := [WaitStep.append, .append, .post].foldl WaitState.step WaitState.init
    (state.Blocked → state.waitList = []) ∧
      ∃ count, (state.posted.scheduled count).Blocked ∧
        ∀ request < state.accepted, request ∈ (state.posted.scheduled count).finished := by
  refine waiting_requests_served [.append, .append, .post] ⟨?_, ?_, trivial, trivial⟩
    [.append, .append, .post] [] rfl
  · rintro ⟨request, held | held⟩
    · cases held
    · cases held
  · rintro ⟨request, held | held⟩
    · cases held
    · cases held

def lateAppend : List WaitStep :=
  [.append, .post, .schedule, .schedule, .append, .schedule, .schedule, .schedule]

theorem late_request_lost :
    ((lateAppend.foldl WaitState.step WaitState.init).Blocked ∧
      (lateAppend.foldl WaitState.step WaitState.init).waitList ≠ []) ∧
    ∀ count, 1 ∉ ((lateAppend.foldl WaitState.step WaitState.init).posted.scheduled
      count).finished := by
  have stuck : lateAppend.foldl WaitState.step WaitState.init =
      ⟨[1], 2, 0, 0, .blocked, [0]⟩ := rfl
  have stays (count : Nat) : (WaitState.mk [1] 2 0 0 .blocked [0]).scheduled count =
      ⟨[1], 2, 0, 0, .blocked, [0]⟩ := by
    induction count with
    | zero => rfl
    | succ count ih => exact ih
  rw [stuck]
  refine ⟨⟨⟨rfl, rfl, rfl⟩, List.cons_ne_nil _ _⟩, ?_⟩
  intro count
  show 1 ∉ ((WaitState.mk [1] 2 0 0 .blocked [0]).scheduled count).finished
  rw [stays]
  decide

end SmartMeter
