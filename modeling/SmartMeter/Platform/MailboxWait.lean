import SmartMeter.Platform.TimeoCore

/-!
How long a task waits for a message: `tls_arch_mbox_fetch` of `wm_wl_mbox.c`, which converts the
timeout to ticks and the ticks back to milliseconds, and what the list of timers makes of it.
-/

namespace SmartMeter

def hz : UInt32 := 500

/-- `in_timeout`, which `tls_os_queue_receive` is given; to it zero is no limit. -/
def inTimeout (timeout : UInt32) : UInt32 :=
  let ticks := timeout * hz / 1000
  if timeout ≠ 0 ∧ ticks = 0 then 1 else ticks

def tickElapsed (tickStart tickStop : UInt32) : UInt32 :=
  if tickStop ≥ tickStart then tickStop - tickStart
  else 0xFFFFFFFF - tickStart + tickStop

/-- `received` is whether `tls_os_queue_receive` returned `TLS_OS_SUCCESS`. -/
def tlsArchMboxFetch (received : Bool) (tickStart tickStop : UInt32) : UInt32 :=
  if !received then sysArchTimeout
  else tickElapsed tickStart tickStop * 1000 / hz

/-- The ticks from `start` to `stop` on a counter of 32 bits. -/
def ticksBetween (start stop : UInt32) : Nat :=
  (stop.toNat + 4294967296 - start.toNat) % 4294967296

variable {H A : Type}

/-- A message that comes before the first timer: the time that was waited is taken off. -/
def Decrements (start stop : UInt32) (head : TlsTimeo H A) (rest : List (TlsTimeo H A)) : Prop :=
  ∃ time : UInt32, time.toNat = head.time.toNat - ticksBetween start stop * 1000 / 500 ∧
    tlsTimeoutsMboxFetchP (tlsArchMboxFetch true start stop) (head :: rest) =
      ({ head with time := time } :: rest, none)

/-- The whole of a wait: the ticks it is given, the milliseconds it returns for a message, and
the timers afterwards, the first of them being what the wait is for. -/
structure WaitsTruly (H A : Type) (timeout start stop : UInt32) : Prop where
  given : (inTimeout timeout).toNat =
    if timeout = 0 then 0 else max 1 (timeout.toNat * 500 / 1000)
  returned : (tlsArchMboxFetch true start stop).toNat = ticksBetween start stop * 1000 / 500
  decremented : ∀ (head : TlsTimeo H A) (rest : List (TlsTimeo H A)), head.time = timeout →
    timeout ≠ 0 → Decrements start stop head rest

/-- What wraps loses a whole turn of the counter. -/
theorem mod_add_le {value : Nat} (wraps : 4294967296 ≤ value) :
    value % 4294967296 + 4294967296 ≤ value := by
  omega

/-- A timeout is at least one tick, and its product with the frequency wraps around. -/
theorem inTimeout_toNat {timeout : UInt32} (some_ : timeout ≠ 0) : (inTimeout timeout).toNat =
    max 1 (timeout.toNat * 500 % 4294967296 / 1000) := by
  have ticks : (timeout * hz / 1000).toNat = timeout.toNat * 500 % 4294967296 / 1000 := by
    rw [UInt32.toNat_div, UInt32.toNat_mul]
    rfl
  rw [inTimeout]
  by_cases short : timeout * hz / 1000 = 0
  · have none_ : timeout.toNat * 500 % 4294967296 / 1000 = 0 := by
      rw [← ticks, short]
      rfl
    rw [if_pos ⟨some_, short⟩, none_]
    rfl
  · have more : timeout.toNat * 500 % 4294967296 / 1000 ≠ 0 := by
      rw [← ticks]
      exact fun same => short (UInt32.toNat_inj.mp same)
    rw [if_neg (fun both => short both.2), ticks]
    omega

theorem inTimeout_iff (timeout : UInt32) :
    (inTimeout timeout).toNat =
        (if timeout = 0 then 0 else max 1 (timeout.toNat * 500 / 1000)) ↔
      timeout.toNat * 500 < 4294967296 := by
  by_cases zero : timeout = 0
  · subst zero
    exact iff_of_true rfl (by decide)
  · have some : 0 < timeout.toNat := by
      rw [Nat.pos_iff_ne_zero]
      exact fun same => zero (UInt32.toNat_inj.mp same)
    rw [inTimeout_toNat zero, if_neg zero]
    constructor
    · intro same
      apply Nat.lt_of_not_le
      intro wraps
      have loses := mod_add_le wraps
      omega
    · intro fits
      rw [Nat.mod_eq_of_lt fits]

theorem tickElapsed_eq (start stop : UInt32) :
    (tickElapsed start stop).toNat =
      if start ≤ stop then ticksBetween start stop else ticksBetween start stop - 1 := by
  have startBound := start.toNat_lt
  have stopBound := stop.toNat_lt
  unfold tickElapsed ticksBetween
  by_cases order : start ≤ stop
  · have orderNat := UInt32.le_iff_toNat_le.mp order
    rw [if_pos order, if_pos order, UInt32.toNat_sub_of_le _ _ order]
    omega
  · have orderNat : stop.toNat < start.toNat := by
      rw [UInt32.le_iff_toNat_le] at order
      omega
    have most : start ≤ 0xFFFFFFFF := UInt32.le_iff_toNat_le.mpr (Nat.le_of_lt_succ startBound)
    have left : (0xFFFFFFFF - start : UInt32).toNat = 4294967295 - start.toNat :=
      UInt32.toNat_sub_of_le _ _ most
    rw [if_neg order, if_neg order, UInt32.toNat_add, left]
    omega

theorem fetched_toNat (start stop : UInt32) :
    (tlsArchMboxFetch true start stop).toNat =
      (tickElapsed start stop).toNat * 1000 % 4294967296 / 500 := by
  have branch : tlsArchMboxFetch true start stop = tickElapsed start stop * 1000 / hz := rfl
  rw [branch, UInt32.toNat_div, UInt32.toNat_mul]
  rfl

/-- A wrap of the counter between the two readings costs a tick. -/
theorem fetched_iff (start stop : UInt32) :
    (tlsArchMboxFetch true start stop).toNat = ticksBetween start stop * 1000 / 500 ↔
      start ≤ stop ∧ ticksBetween start stop * 1000 < 4294967296 := by
  rw [fetched_toNat, tickElapsed_eq]
  by_cases order : start ≤ stop
  · rw [if_pos order]
    constructor
    · intro same
      refine ⟨order, ?_⟩
      apply Nat.lt_of_not_le
      intro wraps
      have loses := mod_add_le wraps
      omega
    · rintro ⟨-, fits⟩
      rw [Nat.mod_eq_of_lt fits]
  · rw [if_neg order]
    refine iff_of_false ?_ fun both => order both.1
    have wrapped : stop.toNat < start.toNat := by
      rw [UInt32.le_iff_toNat_le] at order
      omega
    have some : 0 < ticksBetween start stop := by
      have startBound := start.toNat_lt
      unfold ticksBetween
      omega
    have most := Nat.mod_le ((ticksBetween start stop - 1) * 1000) 4294967296
    omega

/-- An answer that is the true time is taken off the first timer. -/
theorem decrements_of_fetched {start stop : UInt32}
    (exactly : (tlsArchMboxFetch true start stop).toNat = ticksBetween start stop * 1000 / 500)
    (head : TlsTimeo H A) (rest : List (TlsTimeo H A)) (waits : head.time ≠ 0) :
    Decrements start stop head rest := by
  have later : head.time > 0 := UInt32.pos_iff_ne_zero.mpr waits
  have answered : tlsArchMboxFetch true start stop ≠ sysArchTimeout := by
    intro same
    have value := fetched_toNat start stop
    rw [same] at value
    have most := Nat.mod_lt ((tickElapsed start stop).toNat * 1000) (Nat.zero_lt_succ 4294967295)
    have none : sysArchTimeout.toNat = 4294967295 := rfl
    omega
  rw [Decrements, ← exactly]
  simp only [tlsTimeoutsMboxFetchP, if_pos later, if_neg answered]
  generalize tlsArchMboxFetch true start stop = answer
  by_cases early : answer < head.time
  · rw [if_pos early]
    exact ⟨_, UInt32.toNat_sub_of_le _ _ (UInt32.le_of_lt early), rfl⟩
  · rw [if_neg early]
    refine ⟨0, ?_, rfl⟩
    have reached := UInt32.le_iff_toNat_le.mp (UInt32.not_lt.mp early)
    have zero : (0 : UInt32).toNat = 0 := rfl
    omega

/-- A wait is what its timeout says, and the time it returns what the clock says, as long as
neither product leaves the 32 bits and the counter does not wrap in between. -/
theorem waits_truly_iff (timeout start stop : UInt32) :
    WaitsTruly H A timeout start stop ↔ timeout.toNat * 500 < 4294967296 ∧ start ≤ stop ∧
      ticksBetween start stop * 1000 < 4294967296 := by
  rw [← inTimeout_iff, ← fetched_iff]
  constructor
  · exact fun waits => ⟨waits.given, waits.returned⟩
  · rintro ⟨given, returned⟩
    refine ⟨given, returned, fun head rest same some => ?_⟩
    exact decrements_of_fetched returned head rest (same ▸ some)

/-- One tick over the end of the counter is returned as no time at all, and a timeout of more than
two hours becomes one tick. -/
theorem wrapped_tick_lost :
    ¬(∀ timeout start stop : UInt32, WaitsTruly Unit Unit timeout start stop) ∧
      tlsArchMboxFetch true 0xFFFFFFFF 0 = 0 ∧ ticksBetween 0xFFFFFFFF 0 = 1 ∧
      inTimeout 8589935 = 1 := by
  refine ⟨?_, by decide, by decide, by decide⟩
  intro claim
  have returned := (claim 1 0xFFFFFFFF 0).returned
  exact absurd returned (by decide)

end SmartMeter
