import RoundRobin.Config
import RoundRobin.Preemption.Gate

/-!
# A timer driven by a process-wide signal

The process has one preemption signal. Its disposition says what a delivery does: kill the process,
nothing, or run the handler. A signal raised while the mask is set is remembered, at most once, and
delivered when the mask is clear. Setting the disposition to `ignore` forgets a remembered signal.

The handler runs the callback of the latest `arm`. On an OS thread other than the one that armed
the timer it passes the signal on to that one and counts this.
-/

namespace RoundRobin

/-- What the process does with the signal. -/
inductive Disposition where
  | default
  | ignore
  | handler
  deriving DecidableEq, Repr

/-- Signal and timer of one process, with callbacks of type `α`. -/
structure Signal (α : Type) where
  gate : Gate
  pending : Bool
  disposition : Disposition
  callback : Option α
  /-- Quantum of the latest `arm`, in microseconds; 0 before the first. -/
  micros : Nat
  armed : Bool
  /-- Period of the interval timer in microseconds; 0 when it is off. -/
  period : Nat
  /-- Signals passed on from other OS threads. -/
  forwarded : Nat
  deriving DecidableEq, Repr

/-- What a delivery comes to. -/
inductive Delivery (α : Type) where
  | killed
  | dropped
  | invoked (callback : α)
  deriving DecidableEq, Repr

/-- Seconds that an interval timer can hold; a longer period is cut to the largest number of
nanoseconds in a signed word. -/
def intervalLimit : Nat := 9223372036

/-- A period as the system reports it, in whole seconds and microseconds. -/
def interval (period : Nat) : Nat × Nat :=
  if intervalLimit ≤ period / 1000000 then (intervalLimit, 854775)
  else (period / 1000000, period % 1000000)

namespace Signal

variable {α : Type}

/-- The state of a fresh process. -/
def initial : Signal α := ⟨⟨false⟩, false, .default, none, 0, false, 0, 0⟩

def masked (s : Signal α) : Bool := s.gate.masked

/-- Forgets the callback and ignores the signal from now on. -/
def unregister (s : Signal α) : Signal α :=
  { s with disposition := .ignore, pending := false, callback := none }

def arm (s : Signal α) (quantum : Quantum) (callback : α) : Signal α :=
  { s with
    callback := some callback
    micros := quantum.micros
    disposition := .handler
    period := quantum.micros
    armed := true }

/-- Restarts the running quantum from its beginning. -/
def rearm (s : Signal α) : Signal α :=
  if s.armed && s.micros != 0 then { s with period := s.micros } else s

def disarm (s : Signal α) : Signal α :=
  if s.armed then { s.unregister with armed := false, period := 0 } else s

/-- Raises the signal on the owning OS thread; delivery is a separate step. -/
def raise (s : Signal α) : Signal α := { s with pending := true }

/-- Whether a signal waits and nothing holds it off. -/
def isDeliverable (s : Signal α) : Bool := s.pending && !s.masked

/-- Takes the waiting signal and says what it does. -/
def deliver (s : Signal α) : Delivery α × Signal α :=
  let taken := { s with pending := false }
  match s.disposition with
  | .default => (.killed, taken)
  | .ignore => (.dropped, taken)
  | .handler =>
    match s.callback with
    | some callback => (.invoked callback, taken)
    | none => (.dropped, taken)

/-- Raises the signal on another OS thread, where nothing masks it. `none` is the end of the
process. -/
def raiseElsewhere (s : Signal α) : Option (Signal α) :=
  match s.disposition with
  | .default => none
  | .ignore => some s
  | .handler => some { s.raise with forwarded := s.forwarded + 1 }

def enter (s : Signal α) : Guard × Signal α :=
  let (guard, gate) := s.gate.enter
  (guard, { s with gate })

def leave (s : Signal α) (guard : Guard) : Signal α := { s with gate := s.gate.leave guard }

def unmask (s : Signal α) : Signal α := { s with gate := s.gate.unmask }

end Signal

end RoundRobin
