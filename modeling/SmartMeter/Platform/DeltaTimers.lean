import SmartMeter.Platform.TimeoCore

/-!
The list of timers as an agenda: every cell expires the sum of the times up to it from now, and
that instant stays what it was promised to be until the timer is called or removed.
-/

namespace SmartMeter

open Agenda Runs

variable {H A : Type}

def expiries : Nat → List (TlsTimeo H A) → List (Entry (Option H × A))
  | _, [] => []
  | now, t :: rest =>
      ⟨now + t.time.toNat, t.id, (t.h, t.arg)⟩ :: expiries (now + t.time.toNat) rest

def totalTime : List (TlsTimeo H A) → Nat
  | [] => 0
  | t :: rest => t.time.toNat + totalTime rest

def isTimer [DecidableEq H] [DecidableEq A] (h : Option H) (arg : A) (entry : Entry (Option H × A)) : Bool :=
  decide (entry.payload.1 = h ∧ entry.payload.2 = arg)

section Lists

variable {timeout t : TlsTimeo H A} {rest timeo : List (TlsTimeo H A)}

/-- What is left of a time after one that does not exceed it. -/
theorem remaining_toNat {first second : UInt32} (reached : first ≤ second) (now : Nat) :
    now + first.toNat ≤ now + second.toNat ∧
      now + first.toNat + (second - first).toNat = now + second.toNat := by
  have left := UInt32.toNat_sub_of_le _ _ reached
  rw [UInt32.le_iff_toNat_le] at reached
  omega

theorem insertBehind_expiries (reached : t.time ≤ timeout.time) (now : Nat) :
    expiries now (insertBehind timeout t rest) =
      Agenda.insert ⟨now + timeout.time.toNat, timeout.id, (timeout.h, timeout.arg)⟩
        (expiries now (t :: rest)) := by
  obtain ⟨early, late⟩ := remaining_toNat reached now
  induction rest generalizing timeout t now with
  | nil => simp only [insertBehind, expiries, Agenda.insert, early, if_true, late]
  | cons next rest ih =>
      rw [insertBehind]
      by_cases before : next.time > timeout.time - t.time
      · obtain ⟨_, same⟩ := remaining_toNat (UInt32.le_of_lt before)
          (now + t.time.toNat)
        rw [late] at same
        have behind : ¬now + t.time.toNat + next.time.toNat ≤ now + timeout.time.toNat := by
          rw [gt_iff_lt, UInt32.lt_iff_toNat_lt] at before
          omega
        simp only [before, if_true, expiries, Agenda.insert, early, behind, if_false, late, same]
      · have further := UInt32.not_lt.mp before
        obtain ⟨early', late'⟩ := remaining_toNat further (now + t.time.toNat)
        have inserted := @ih { timeout with time := timeout.time - t.time } next further
          (now + t.time.toNat) early' late'
        simp only [before, if_false, expiries, inserted, Agenda.insert, early, if_true, late]

theorem tlsTimeoutP_expiries (timeout : TlsTimeo H A) (timeo : List (TlsTimeo H A)) (now : Nat) :
    expiries now (tlsTimeoutP timeout timeo) =
      Agenda.insert ⟨now + timeout.time.toNat, timeout.id, (timeout.h, timeout.arg)⟩
        (expiries now timeo) := by
  cases timeo with
  | nil => rfl
  | cons head rest =>
      rw [tlsTimeoutP]
      by_cases before : head.time > timeout.time
      · obtain ⟨_, same⟩ := remaining_toNat (UInt32.le_of_lt before) now
        have behind : ¬now + head.time.toNat ≤ now + timeout.time.toNat := by
          rw [gt_iff_lt, UInt32.lt_iff_toNat_lt] at before
          omega
        simp only [before, if_true, expiries, Agenda.insert, behind, if_false, same]
      · rw [if_neg before]
        exact insertBehind_expiries (UInt32.not_lt.mp before) now

theorem addBack_expiries (time : UInt32) (timeo : List (TlsTimeo H A)) (now : Nat)
    (fits : time.toNat + totalTime timeo < 4294967296) :
    expiries now (addBack time timeo) = expiries (now + time.toNat) timeo ∧
      totalTime (addBack time timeo) ≤ time.toNat + totalTime timeo := by
  cases timeo with
  | nil => exact ⟨rfl, Nat.zero_le _⟩
  | cons next rest =>
      simp only [totalTime] at fits
      have sum : (next.time + time).toNat = next.time.toNat + time.toNat := by
        rw [UInt32.toNat_add]
        omega
      have same : now + (next.time + time).toNat = now + time.toNat + next.time.toNat := by omega
      constructor
      · simp only [addBack, expiries, same]
      · simp only [addBack, totalTime, sum]
        omega

theorem tlsUntimeoutP_expiries [DecidableEq H] [DecidableEq A] (h : Option H) (arg : A) (timeo : List (TlsTimeo H A)) (now : Nat)
    (fits : totalTime timeo < 4294967296) :
    expiries now (tlsUntimeoutP h arg timeo) = (expiries now timeo).eraseP (isTimer h arg) := by
  induction timeo generalizing now with
  | nil => rfl
  | cons t rest ih =>
      simp only [totalTime] at fits
      by_cases found : t.h = h ∧ t.arg = arg
      · have here : isTimer h arg ⟨now + t.time.toNat, t.id, (t.h, t.arg)⟩ = true :=
          decide_eq_true found
        rw [tlsUntimeoutP, if_pos found, expiries, List.eraseP_cons_of_pos here]
        exact (addBack_expiries t.time rest now fits).1
      · have apart : isTimer h arg ⟨now + t.time.toNat, t.id, (t.h, t.arg)⟩ = false :=
          decide_eq_false found
        rw [tlsUntimeoutP, if_neg found, expiries, expiries, List.eraseP_cons_of_neg (by simp [apart]),
          ih _ (by omega)]

theorem insertBehind_totalTime (reached : t.time ≤ timeout.time) :
    totalTime (insertBehind timeout t rest) = max (totalTime (t :: rest)) timeout.time.toNat := by
  obtain ⟨early, late⟩ := remaining_toNat reached 0
  induction rest generalizing timeout t with
  | nil =>
      simp only [insertBehind, totalTime]
      omega
  | cons next rest ih =>
      rw [insertBehind]
      by_cases before : next.time > timeout.time - t.time
      · obtain ⟨sooner, same⟩ := remaining_toNat (UInt32.le_of_lt before) 0
        simp only [before, if_true, totalTime]
        omega
      · have further := UInt32.not_lt.mp before
        obtain ⟨early', late'⟩ := remaining_toNat further 0
        have inserted := @ih { timeout with time := timeout.time - t.time } next further
          early' late'
        simp only [before, if_false, totalTime, inserted]
        omega

/-- A new timer at most takes the place of the last one. -/
theorem tlsTimeoutP_totalTime (timeout : TlsTimeo H A) (timeo : List (TlsTimeo H A)) :
    totalTime (tlsTimeoutP timeout timeo) = max (totalTime timeo) timeout.time.toNat := by
  cases timeo with
  | nil =>
      simp only [tlsTimeoutP, totalTime]
      omega
  | cons head rest =>
      rw [tlsTimeoutP]
      by_cases before : head.time > timeout.time
      · obtain ⟨sooner, same⟩ := remaining_toNat (UInt32.le_of_lt before) 0
        simp only [before, if_true, totalTime]
        omega
      · rw [if_neg before]
        exact insertBehind_totalTime (UInt32.not_lt.mp before)

theorem tlsUntimeoutP_totalTime [DecidableEq H] [DecidableEq A] (h : Option H) (arg : A) (timeo : List (TlsTimeo H A))
    (fits : totalTime timeo < 4294967296) :
    totalTime (tlsUntimeoutP h arg timeo) ≤ totalTime timeo := by
  induction timeo with
  | nil => exact Nat.le_refl _
  | cons t rest ih =>
      simp only [totalTime] at fits
      rw [tlsUntimeoutP]
      split
      · exact (addBack_expiries t.time rest 0 fits).2
      · have shorter := ih (by omega)
        simp only [totalTime]
        omega

theorem behindDifferences_exact (reached : t.time ≤ timeout.time) :
    ∀ pair ∈ behindDifferences timeout t rest, pair.2 ≤ pair.1 := by
  induction rest generalizing timeout t with
  | nil => simpa [behindDifferences] using reached
  | cons next rest ih =>
      rw [behindDifferences]
      intro pair inside
      rcases List.mem_cons.mp inside with rfl | inside
      · exact reached
      · by_cases before : next.time > timeout.time - t.time
        · rw [if_pos before, List.mem_singleton] at inside
          subst inside
          exact UInt32.le_of_lt before
        · rw [if_neg before] at inside
          exact ih (UInt32.not_lt.mp before) pair inside

theorem differences_exact (timeo : List (TlsTimeo H A)) (op : TimerOp H A) :
    ∀ pair ∈ differences timeo op, pair.2 ≤ pair.1 := by
  intro pair inside
  cases op with
  | untimeout => cases inside
  | timeout msecs h arg =>
      cases timeo with
      | nil => cases inside
      | cons head rest =>
          rw [differences] at inside
          by_cases before : head.time > msecs
          · rw [if_pos before, List.mem_singleton] at inside
            subst inside
            exact UInt32.le_of_lt before
          · rw [if_neg before] at inside
            exact behindDifferences_exact (UInt32.not_lt.mp before) pair inside
  | fetch answer =>
      cases timeo with
      | nil => cases inside
      | cons head rest =>
          rw [differences] at inside
          split at inside
          next earlier =>
            rw [List.mem_singleton] at inside
            subst inside
            exact UInt32.le_of_lt earlier.2.2
          next => cases inside

end Lists

def callEntry (call : Nat × TlsTimeo H A) : Entry (Option H × A) :=
  ⟨call.1, call.2.id, (call.2.h, call.2.arg)⟩

namespace Timers

def pending (timers : Timers H A) : List (Entry (Option H × A)) :=
  expiries timers.now timers.timeo

def agenda (timers : Timers H A) : State (Option H × A) where
  now := timers.now
  entries := timers.pending
  fired := timers.fired.map callEntry
  promised := timers.promised

end Timers

/-- The first timer is called at the end of the wait. -/
theorem turn_fires {head : TlsTimeo H A} {answer : UInt32} (rest : List (TlsTimeo H A))
    (expires : head.time = 0 ∨ answer = sysArchTimeout) :
    tlsTimeoutsMboxFetchP answer (head :: rest) = (rest, some head) ∧
      waited answer (head :: rest) = head.time.toNat := by
  unfold tlsTimeoutsMboxFetchP waited
  rcases expires with zero | timeout
  · simp [zero]
  · simp [timeout]

/-- A message comes after `answer` milliseconds, before the first timer or with it. -/
theorem turn_reports {head : TlsTimeo H A} {answer : UInt32} (rest : List (TlsTimeo H A))
    (waits : head.time ≠ 0) (message : answer ≠ sysArchTimeout) (reported : answer ≤ head.time) :
    tlsTimeoutsMboxFetchP answer (head :: rest) =
        ({ head with time := head.time - answer } :: rest, none) ∧
      waited answer (head :: rest) = answer.toNat := by
  have positive : head.time > 0 := UInt32.pos_iff_ne_zero.mpr waits
  unfold tlsTimeoutsMboxFetchP waited
  simp only [positive, if_true, message, if_false, and_true]
  split
  · rfl
  · next late =>
      have same : answer = head.time := UInt32.le_antisymm reported (UInt32.not_lt.mp late)
      rw [same, UInt32.sub_self]

/-- The list is a sound agenda, and its times add up to what an `u32` holds. -/
structure TimersKept (timers : Timers H A) : Prop where
  sound : timers.agenda.Sound
  numbered : timers.allocated = timers.promised.length
  fits : totalTime timers.timeo < 4294967296
  exactly : ∀ pair ∈ timers.subtracted, pair.2 ≤ pair.1

theorem start_kept : TimersKept (Timers.start : Timers H A) := by
  have empty : totalTime (Timers.start : Timers H A).timeo < 4294967296 := Nat.succ_pos _
  refine ⟨⟨.nil, ?_, ?_, ?_⟩, rfl, empty, ?_⟩ <;> intro _ inside <;> cases inside

section Steps

variable [DecidableEq H] [DecidableEq A] {timers : Timers H A}

theorem agenda_timeout (numbered : timers.allocated = timers.promised.length) (msecs : UInt32)
    (h : Option H) (arg : A) :
    (timers.step (.timeout msecs h arg)).agenda = timers.agenda.add msecs.toNat (h, arg) := by
  have inserted := tlsTimeoutP_expiries ⟨timers.allocated, msecs, h, arg⟩ timers.timeo timers.now
  rw [numbered] at inserted
  simp only [Timers.step, Timers.agenda, Timers.pending, State.add, numbered, inserted]

theorem agenda_untimeout (fits : totalTime timers.timeo < 4294967296) (h : Option H) (arg : A) :
    (timers.step (.untimeout h arg)).agenda = timers.agenda.remove (isTimer h arg) := by
  have removed := tlsUntimeoutP_expiries h arg timers.timeo timers.now fits
  simp only [Timers.step, Timers.agenda, Timers.pending, State.remove, removed]

theorem agenda_fires {head : TlsTimeo H A} {rest : List (TlsTimeo H A)} {answer : UInt32}
    (first : timers.timeo = head :: rest) (expires : head.time = 0 ∨ answer = sysArchTimeout) :
    (timers.step (.fetch answer)).agenda = timers.agenda.serve := by
  obtain ⟨turn, wait⟩ := turn_fires rest expires
  have entries : timers.agenda.entries =
      ⟨timers.now + head.time.toNat, head.id, (head.h, head.arg)⟩ ::
        expiries (timers.now + head.time.toNat) rest := by
    simp only [Timers.agenda, Timers.pending, first, expiries]
  rw [State.serve, entries]
  simp [Timers.step, Timers.agenda, Timers.pending, first, turn, wait, callEntry]

theorem agenda_reports {head : TlsTimeo H A} {rest : List (TlsTimeo H A)} {answer : UInt32}
    (first : timers.timeo = head :: rest) (waits : head.time ≠ 0) (message : answer ≠ sysArchTimeout)
    (reported : answer ≤ head.time) :
    (timers.step (.fetch answer)).agenda = timers.agenda.pass answer.toNat := by
  obtain ⟨turn, wait⟩ := turn_reports rest waits message reported
  obtain ⟨_, same⟩ := remaining_toNat reported timers.now
  simp [Timers.step, Timers.agenda, Timers.pending, State.pass, first, turn, wait, expiries, same]

theorem agenda_idle (empty : timers.timeo = []) (answer : UInt32) :
    (timers.step (.fetch answer)).agenda = timers.agenda.pass answer.toNat := by
  simp [Timers.step, Timers.agenda, Timers.pending, State.pass, empty, tlsTimeoutsMboxFetchP, waited,
    expiries]

theorem step_subtracted (kept : ∀ pair ∈ timers.subtracted, pair.2 ≤ pair.1) (op : TimerOp H A) :
    ∀ pair ∈ (timers.step op).subtracted, pair.2 ≤ pair.1 := by
  have added : (timers.step op).subtracted = timers.subtracted ++ differences timers.timeo op := by
    cases op <;> rfl
  rw [added]
  intro pair inside
  rcases List.mem_append.mp inside with earlier | now
  · exact kept pair earlier
  · exact differences_exact timers.timeo op pair now

/-- What one operation does to the deadlines. A fetch calls the first timer exactly if that is
at zero or the wait for a message times out, and no other one. -/
def Respects (timers after : Timers H A) : TimerOp H A → Prop
  | .timeout msecs h arg => after.now = timers.now ∧ after.fired = timers.fired ∧
      ∃ before behind, timers.pending = before ++ behind ∧ after.pending =
        before ++ ⟨timers.now + msecs.toNat, timers.allocated, (h, arg)⟩ :: behind
  | .untimeout h arg => after.now = timers.now ∧ after.fired = timers.fired ∧
      after.pending = timers.pending.eraseP (isTimer h arg)
  | .fetch answer =>
      match timers.timeo with
      | [] => after.now = timers.now + answer.toNat ∧ after.fired = timers.fired ∧
          after.pending = timers.pending
      | head :: _ =>
          if head.time = 0 ∨ answer = sysArchTimeout then
            after.now = timers.now + head.time.toNat ∧
              after.fired = timers.fired ++ [(timers.now + head.time.toNat, head)] ∧
              timers.pending = callEntry (timers.now + head.time.toNat, head) :: after.pending
          else after.now = timers.now + answer.toNat ∧ after.fired = timers.fired ∧
            after.pending = timers.pending

theorem timeout_kept (kept : TimersKept timers) (msecs : UInt32) (h : Option H) (arg : A) :
    TimersKept (timers.step (.timeout msecs h arg)) ∧
      Respects timers (timers.step (.timeout msecs h arg)) (.timeout msecs h arg) := by
  obtain ⟨sound, numbered, fits, exactly⟩ := kept
  have agenda := agenda_timeout numbered msecs h arg
  refine ⟨⟨agenda ▸ sound.add msecs.toNat (h, arg), ?_, ?_, step_subtracted exactly _⟩, rfl, rfl, ?_⟩
  · simp [Timers.step, numbered]
  · have total : totalTime (tlsTimeoutP ⟨timers.allocated, msecs, h, arg⟩ timers.timeo) =
        max (totalTime timers.timeo) msecs.toNat := tlsTimeoutP_totalTime _ _
    have bound := msecs.toNat_lt
    change totalTime (tlsTimeoutP _ _) < 4294967296
    rw [total]
    omega
  · have pending : (timers.step (.timeout msecs h arg)).pending = Agenda.insert
        ⟨timers.now + msecs.toNat, timers.allocated, (h, arg)⟩ timers.pending :=
      tlsTimeoutP_expiries _ _ _
    rw [pending]
    exact insert_split _ _

theorem untimeout_kept (kept : TimersKept timers) (h : Option H) (arg : A) :
    TimersKept (timers.step (.untimeout h arg)) ∧
      Respects timers (timers.step (.untimeout h arg)) (.untimeout h arg) := by
  obtain ⟨sound, numbered, fits, exactly⟩ := kept
  have agenda := agenda_untimeout fits h arg
  refine ⟨⟨agenda ▸ sound.remove (isTimer h arg), numbered, ?_, step_subtracted exactly _⟩,
    rfl, rfl, ?_⟩
  · exact Nat.lt_of_le_of_lt (tlsUntimeoutP_totalTime h arg timers.timeo fits) fits
  · exact tlsUntimeoutP_expiries h arg timers.timeo timers.now fits

theorem idle_kept (kept : TimersKept timers) (empty : timers.timeo = []) (answer : UInt32) :
    TimersKept (timers.step (.fetch answer)) ∧
      Respects timers (timers.step (.fetch answer)) (.fetch answer) := by
  obtain ⟨sound, numbered, _, exactly⟩ := kept
  have agenda := agenda_idle empty answer
  have passed : (timers.agenda.pass answer.toNat).Sound := by
    refine sound.pass ?_
    intro head inside
    simp [Timers.agenda, Timers.pending, empty, expiries] at inside
  refine ⟨⟨agenda ▸ passed, numbered, ?_, step_subtracted exactly _⟩, ?_⟩
  · simp [Timers.step, empty, tlsTimeoutsMboxFetchP, totalTime]
  · simp [Respects, Timers.step, Timers.pending, empty, tlsTimeoutsMboxFetchP, waited, expiries]

theorem fires_kept (kept : TimersKept timers) {head : TlsTimeo H A} {rest : List (TlsTimeo H A)}
    {answer : UInt32} (first : timers.timeo = head :: rest)
    (expires : head.time = 0 ∨ answer = sysArchTimeout) :
    TimersKept (timers.step (.fetch answer)) ∧
      Respects timers (timers.step (.fetch answer)) (.fetch answer) := by
  obtain ⟨sound, numbered, fits, exactly⟩ := kept
  rw [first, totalTime] at fits
  obtain ⟨turn, wait⟩ := turn_fires rest expires
  have agenda := agenda_fires first expires
  refine ⟨⟨agenda ▸ sound.serve, numbered, ?_, step_subtracted exactly _⟩, ?_⟩
  · simp only [Timers.step, first, turn]
    omega
  · simp only [Respects, first, expires, if_true]
    refine ⟨?_, ?_, ?_⟩
    · simp [Timers.step, first, wait]
    · simp [Timers.step, first, turn, wait]
    · simp [Timers.step, Timers.pending, first, turn, wait, expiries, callEntry]

theorem reports_kept (kept : TimersKept timers) {head : TlsTimeo H A} {rest : List (TlsTimeo H A)}
    {answer : UInt32} (first : timers.timeo = head :: rest)
    (reports : ¬ (head.time = 0 ∨ answer = sysArchTimeout)) (early : answer ≤ head.time) :
    TimersKept (timers.step (.fetch answer)) ∧
      Respects timers (timers.step (.fetch answer)) (.fetch answer) := by
  obtain ⟨sound, numbered, fits, exactly⟩ := kept
  rw [first, totalTime] at fits
  obtain ⟨waits, message⟩ := not_or.mp reports
  obtain ⟨turn, wait⟩ := turn_reports rest waits message early
  have agenda := agenda_reports first waits message early
  have shorter := remaining_toNat early 0
  obtain ⟨_, same⟩ := remaining_toNat early timers.now
  have passed : (timers.agenda.pass answer.toNat).Sound := by
    refine sound.pass ?_
    intro entry inside
    simp only [Timers.agenda, Timers.pending, first, expiries, List.head?_cons,
      Option.mem_some_iff] at inside
    subst inside
    change timers.now + answer.toNat ≤ timers.now + head.time.toNat
    omega
  refine ⟨⟨agenda ▸ passed, numbered, ?_, step_subtracted exactly _⟩, ?_⟩
  · simp only [Timers.step, first, turn, totalTime]
    omega
  · simp only [Respects, first, reports, if_false]
    refine ⟨?_, ?_, ?_⟩
    · simp [Timers.step, first, wait]
    · simp [Timers.step, first, turn]
    · simp [Timers.step, Timers.pending, first, turn, wait, expiries, same]

theorem step_kept (kept : TimersKept timers) {op : TimerOp H A} (reported : Reported timers op) :
    TimersKept (timers.step op) ∧ Respects timers (timers.step op) op := by
  cases op with
  | timeout msecs h arg => exact timeout_kept kept msecs h arg
  | untimeout h arg => exact untimeout_kept kept h arg
  | fetch answer =>
      cases first : timers.timeo with
      | nil => exact idle_kept kept first answer
      | cons head rest =>
          by_cases expires : head.time = 0 ∨ answer = sysArchTimeout
          · exact fires_kept kept first expires
          · obtain ⟨_, message⟩ := not_or.mp expires
            have early : answer ≤ head.time := by
              rcases reported with timeout | within
              · exact absurd timeout message
              · exact within head (by rw [first]; rfl)
            exact reports_kept kept first expires early

end Steps

/-- Timers are called at the instants that were promised for them, in order, and the pending
ones are still to be and none of them is late; first come, first served where instants are
equal. -/
structure Punctual (timers : Timers H A) : Prop where
  called : ∀ call ∈ timers.fired, timers.promised[call.2.id]? = some call.1
  pending : ∀ entry ∈ timers.pending, timers.promised[entry.id]? = some entry.due
  ahead : ∀ entry ∈ timers.pending, timers.now ≤ entry.due
  inOrder : (timers.fired.map callEntry ++ timers.pending).Pairwise Precedes
  exactly : ∀ pair ∈ timers.subtracted, pair.2 ≤ pair.1
  fits : totalTime timers.timeo < 4294967296

theorem TimersKept.punctual {timers : Timers H A} (kept : TimersKept timers) : Punctual timers := by
  obtain ⟨⟨ordered, _, ahead, promised⟩, _, fits, exactly⟩ := kept
  refine ⟨?_, ?_, ahead, ordered, exactly, fits⟩
  · intro call inside
    exact promised (callEntry call) (List.mem_append_left _ (List.mem_map_of_mem inside))
  · intro entry inside
    exact promised entry (List.mem_append_right _ inside)

/-- The law of the list over every run whose waits are reported as `tls_arch_mbox_fetch` does. -/
theorem timers_punctual [DecidableEq H] [DecidableEq A] (ops : List (TimerOp H A))
    (reported : Along Timers.step Reported Timers.start ops) :
    Punctual (ops.foldl Timers.step Timers.start) ∧
      ∀ op, Reported (ops.foldl Timers.step Timers.start) op →
        Respects (ops.foldl Timers.step Timers.start)
          ((ops.foldl Timers.step Timers.start).step op) op := by
  have kept : TimersKept (ops.foldl Timers.step Timers.start) := by
    refine reached_of_along ?_ start_kept reported (List.append_nil ops).symm
    intro timers op before allowed
    exact (step_kept before allowed).1
  exact ⟨kept.punctual, fun op allowed => (step_kept kept allowed).2⟩

def twoTimers : List (TimerOp Unit Nat) :=
  [.timeout 10 none 0, .timeout 10 none 1, .fetch 4, .fetch sysArchTimeout]

theorem twoTimers_reported : Along Timers.step Reported Timers.start twoTimers := by
  refine ⟨trivial, trivial, .inr ?_, .inl rfl, trivial⟩
  intro head first
  cases first
  decide

/-- Of two timers that expire together the earlier one has been called at its instant, and the
next fetch calls the other one without a wait. -/
theorem timers_punctual_two :
    let reached : Timers Unit Nat := twoTimers.foldl Timers.step Timers.start
    Punctual reached ∧ reached.fired.map (fun call => (call.1, call.2.arg)) = [(10, 0)] ∧
      (reached.step (.fetch 0)).fired.map (fun call => (call.1, call.2.arg)) =
        [(10, 0), (10, 1)] := by
  intro reached
  have timeo : reached.timeo = [⟨1, 0, none, 1⟩] := rfl
  obtain ⟨punctual, respects⟩ := timers_punctual twoTimers twoTimers_reported
  refine ⟨punctual, rfl, ?_⟩
  have served := respects (.fetch 0) (.inr fun head _ => UInt32.zero_le)
  rw [Respects, timeo] at served
  rw [served.2.1, List.map_append]
  rfl

end SmartMeter
