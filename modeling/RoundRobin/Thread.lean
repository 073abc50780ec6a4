import RoundRobin.Stack

/-!
# Thread records

One slot of the thread table. What a suspended thread is continued from is left open as `κ`: the
table stores it and never looks inside. A slot that is `unused` belongs to nobody.

Sleeping and blocked are independent, so there is a state for both at once. A sleeping thread
holds the value of the quantum counter from which it is awake; 0 stands for no deadline.
-/

namespace RoundRobin

inductive ThreadState where
  | running
  | ready
  | blocked
  | sleeping
  | sleepBlocked
  | unused
  deriving DecidableEq, Repr

def ThreadState.isSleeping : ThreadState → Bool
  | .sleeping | .sleepBlocked => true
  | _ => false

structure Thread (κ : Type) where
  tid : Tid
  state : ThreadState
  /-- What the thread is continued from, once it has been primed or suspended. -/
  context : Option κ
  stack : Option Stack
  /-- Number of the program that the thread runs. -/
  entry : Option Nat
  /-- Turns begun, the present one included. -/
  quanta : Nat
  wakeAt : Nat
  deriving DecidableEq, Repr

/-- What became of a thread whose deadline has passed. -/
inductive Wakeup where
  | ready (tid : Tid)
  | stillBlocked (tid : Tid)
  deriving DecidableEq, Repr

/-- The thread to be queued, where a wake-up makes one runnable. -/
def Wakeup.runnable? : Wakeup → Option Tid
  | .ready tid => some tid
  | .stillBlocked _ => none

namespace Thread

variable {κ : Type}

/-- A blank slot. -/
def unused (tid : Tid) : Thread κ := ⟨tid, .unused, none, none, none, 0, 0⟩

def isUnused (t : Thread κ) : Bool := t.state == .unused

/-- Begins a turn. -/
def markRunning (t : Thread κ) : Thread κ :=
  { t with state := .running, quanta := addSaturating t.quanta 1 }

def markReady (t : Thread κ) : Thread κ := { t with state := .ready }

/-- Blanks the slot; the stack it had is handed back, since it may still be in use. -/
def release (t : Thread κ) : Option Stack × Thread κ := (t.stack, unused t.tid)

def putToSleep (t : Thread κ) (wakeAt : Nat) : Thread κ := { t with state := .sleeping, wakeAt }

/-- Ends a sleep. A thread that was blocked meanwhile stays blocked. -/
def wake (t : Thread κ) : Wakeup × Thread κ :=
  match t.state with
  | .sleepBlocked => (.stillBlocked t.tid, { t with state := .blocked, wakeAt := 0 })
  | _ => (.ready t.tid, { t with state := .ready, wakeAt := 0 })

/-- Whether the thread is asleep with a deadline that `now` has reached. -/
def isDue (t : Thread κ) (now : Nat) : Bool :=
  t.wakeAt != 0 && t.wakeAt ≤ now && t.state.isSleeping

end Thread

/-- Wakes every due thread of a table, in table order. -/
def expire {κ : Type} (now : Nat) : List (Thread κ) → List Wakeup × List (Thread κ)
  | [] => ([], [])
  | t :: rest =>
    let (wakeups, rest) := expire now rest
    if t.isDue now then
      let (wakeup, t) := t.wake
      (wakeup :: wakeups, t :: rest)
    else (wakeups, t :: rest)

end RoundRobin
