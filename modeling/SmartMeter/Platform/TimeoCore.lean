import SmartMeter.Library.Agenda
import SmartMeter.Library.Runs

/-!
`wm_wl_timers.c`: one of the lists of timers, each with the time it expires after the one before
it. `tls_mem_alloc` succeeds, and a cell of the list is known by the number of its allocation.
-/

namespace SmartMeter

def sysArchTimeout : UInt32 := 0xFFFFFFFF

variable {H A : Type}

/-- The handler is `none` where the pointer is NULL. -/
structure TlsTimeo (H A : Type) where
  id : Nat
  time : UInt32
  h : Option H
  arg : A

/-- The loop of `tls_timeout_p`, `t` being the cell it has come to and `rest` those behind. -/
def insertBehind (timeout t : TlsTimeo H A) : List (TlsTimeo H A) → List (TlsTimeo H A)
  | [] => [t, { timeout with time := timeout.time - t.time }]
  | next :: rest =>
      let timeout := { timeout with time := timeout.time - t.time }
      if next.time > timeout.time then
        t :: timeout :: { next with time := next.time - timeout.time } :: rest
      else t :: insertBehind timeout next rest

def tlsTimeoutP (timeout : TlsTimeo H A) : List (TlsTimeo H A) → List (TlsTimeo H A)
  | [] => [timeout]
  | head :: rest =>
      if head.time > timeout.time then
        timeout :: { head with time := head.time - timeout.time } :: rest
      else insertBehind timeout head rest

/-- The time of a cell that is removed goes back to the next one, if there is one. -/
def addBack (time : UInt32) : List (TlsTimeo H A) → List (TlsTimeo H A)
  | [] => []
  | next :: rest => { next with time := next.time + time } :: rest

def tlsUntimeoutP [DecidableEq H] [DecidableEq A] (handler : Option H) (arg : A) : List (TlsTimeo H A) → List (TlsTimeo H A)
  | [] => []
  | t :: rest =>
      if t.h = handler ∧ t.arg = arg then addBack t.time rest
      else t :: tlsUntimeoutP handler arg rest

/-- One turn of `tls_timeouts_mbox_fetch_p` from the label `again` on: the list and the timer
that is called. `answer` is that of `tls_arch_mbox_fetch`, which a timer at zero does not wait for. -/
def tlsTimeoutsMboxFetchP (answer : UInt32) :
    List (TlsTimeo H A) → List (TlsTimeo H A) × Option (TlsTimeo H A)
  | [] => ([], none)
  | head :: rest =>
      let timeNeeded := if head.time > 0 then answer else sysArchTimeout
      if timeNeeded = sysArchTimeout then (rest, some head)
      else if timeNeeded < head.time then
        ({ head with time := head.time - timeNeeded } :: rest, none)
      else ({ head with time := 0 } :: rest, none)

/-- The subtractions of the loop, minuend first. -/
def behindDifferences (timeout t : TlsTimeo H A) : List (TlsTimeo H A) → List (UInt32 × UInt32)
  | [] => [(timeout.time, t.time)]
  | next :: rest =>
      let moved := { timeout with time := timeout.time - t.time }
      (timeout.time, t.time) ::
        if next.time > moved.time then [(next.time, moved.time)]
        else behindDifferences moved next rest

inductive TimerOp (H A : Type)
  | timeout (msecs : UInt32) (h : Option H) (arg : A)
  | untimeout (h : Option H) (arg : A)
  | fetch (answer : UInt32)

def differences (timeo : List (TlsTimeo H A)) : TimerOp H A → List (UInt32 × UInt32)
  | .timeout msecs h arg =>
      match timeo with
      | [] => []
      | head :: rest =>
          if head.time > msecs then [(head.time, msecs)]
          else behindDifferences ⟨0, msecs, h, arg⟩ head rest
  | .untimeout _ _ => []
  | .fetch answer =>
      match timeo with
      | [] => []
      | head :: _ =>
          if head.time > 0 ∧ answer ≠ sysArchTimeout ∧ answer < head.time then [(head.time, answer)]
          else []

/-- The list, and what one sees who looks at the clock and writes down what is called. -/
structure Timers (H A : Type) where
  timeo : List (TlsTimeo H A)
  allocated : Nat
  now : Nat
  fired : List (Nat × TlsTimeo H A)
  promised : List Nat
  subtracted : List (UInt32 × UInt32)

def Timers.start : Timers H A :=
  ⟨[], 0, 0, [], [], []⟩

def waited (answer : UInt32) : List (TlsTimeo H A) → Nat
  | [] => answer.toNat
  | head :: _ => if answer = sysArchTimeout then head.time.toNat
      else if head.time > 0 then answer.toNat else 0

def Timers.step [DecidableEq H] [DecidableEq A] (timers : Timers H A) (op : TimerOp H A) : Timers H A :=
  let timers := { timers with subtracted := timers.subtracted ++ differences timers.timeo op }
  match op with
  | .timeout msecs h arg =>
      { timers with
        timeo := tlsTimeoutP ⟨timers.allocated, msecs, h, arg⟩ timers.timeo
        allocated := timers.allocated + 1
        promised := timers.promised ++ [timers.now + msecs.toNat] }
  | .untimeout h arg => { timers with timeo := tlsUntimeoutP h arg timers.timeo }
  | .fetch answer =>
      let turn := tlsTimeoutsMboxFetchP answer timers.timeo
      let now := timers.now + waited answer timers.timeo
      { timers with
        timeo := turn.1
        now := now
        fired := timers.fired ++ (turn.2.map fun t => (now, t)).toList }

/-- A message comes before the first timer, or at the same moment. -/
def Reported (timers : Timers H A) : TimerOp H A → Prop
  | .fetch answer => answer = sysArchTimeout ∨ ∀ head ∈ timers.timeo.head?, answer ≤ head.time
  | _ => True

end SmartMeter
