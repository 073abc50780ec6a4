import RoundRobin.Config

/-!
# A timer that fires when told

It holds at most one callback, here of any type `α`. Disarming forgets the callback and keeps the
quantum; restarting a quantum is counted even while the timer is not armed.
-/

namespace RoundRobin

structure ManualTimer (α : Type) where
  callback : Option α
  quantum : Option Quantum
  /-- How often a quantum was restarted early. -/
  rearms : Nat
  deriving DecidableEq, Repr

namespace ManualTimer

variable {α : Type}

def new : ManualTimer α := ⟨none, none, 0⟩

def isArmed (t : ManualTimer α) : Bool := t.callback.isSome

def arm (t : ManualTimer α) (quantum : Quantum) (callback : α) : ManualTimer α :=
  { t with quantum := some quantum, callback := some callback }

/-- The callback that a tick runs, if the timer is armed. -/
def fire (t : ManualTimer α) : Option α := t.callback

def rearm (t : ManualTimer α) : ManualTimer α := { t with rearms := t.rearms + 1 }

def disarm (t : ManualTimer α) : ManualTimer α := { t with callback := none }

end ManualTimer

end RoundRobin
