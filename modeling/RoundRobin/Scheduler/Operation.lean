import RoundRobin.Scheduler.Basic

/-!
# Operation sequences

The operations of a scheduler as data, so that a run is a list of them. An answer that takes the
running thread off the processor obliges the caller to a decision: `Bench.settle` makes it and
takes the parked stack, and a run in which every such answer is settled at once is disciplined.
-/

namespace RoundRobin.Scheduler

inductive Op where
  | spawn (entry : Option Nat) (stackSize : Nat) (map : Nat → Except OsError Nat)
  | schedule
  | block (tid : Tid)
  | resume (tid : Tid)
  | sleep (quanta : Nat)
  | terminate (tid : Tid)
  | handOff
  | takeParked
  | releaseAll
  | detachRunning
  /-- Gives the detached stack that is held to the main thread. -/
  | adoptMain
  | releaseMain

inductive Answer where
  | refused (e : Error)
  | done
  | spawned (tid : Tid)
  | switched (s : Switch)
  | suspension (s : Suspension)
  | ended (t : Termination)
  | stack (s : Option Stack)
  | tornDown (t : Teardown)
  deriving DecidableEq, Repr

/-- Whether the running thread has left the processor, so that a decision is due. -/
def Answer.callsForDecision : Answer → Bool
  | .suspension .reschedule => true
  | .ended .ownEnd => true
  | _ => false

/-- A scheduler with a caller that may hold one detached stack. -/
structure Bench (κ : Type) where
  scheduler : Scheduler κ
  held : Option Stack
  deriving DecidableEq, Repr

namespace Bench

variable {κ : Type}

def new (capacity : Nat) : Except Halt (Bench κ) := do
  return ⟨← Scheduler.new capacity, none⟩

/-- Replaces the scheduler and answers with what `f` makes of a result, or with the refusal. -/
def conclude {α : Type} (b : Bench κ) (f : α → Answer) :
    Except Error α × Scheduler κ → Answer × Bench κ
  | (.ok a, s) => (f a, { b with scheduler := s })
  | (.error e, s) => (.refused e, { b with scheduler := s })

/-- Performs one operation; fresh threads are primed by `prime`. -/
def apply (b : Bench κ) (prime : Tid → Stack → Option κ) : Op → Except Halt (Answer × Bench κ)
  | .spawn entry stackSize map => do
    return b.conclude .spawned (← b.scheduler.spawn entry stackSize map prime)
  | .schedule => do
    let (switch, s) ← b.scheduler.schedule
    return (.switched switch, { b with scheduler := s })
  | .block tid => do return b.conclude .suspension (← b.scheduler.block tid)
  | .resume tid => do return b.conclude (fun _ => .done) (← b.scheduler.resume tid)
  | .sleep quanta => do return b.conclude .suspension (← b.scheduler.sleep quanta)
  | .terminate tid => do return b.conclude .ended (← b.scheduler.terminate tid)
  | .handOff => do
    let (switch, s) ← b.scheduler.handOff
    return (.switched switch, { b with scheduler := s })
  | .takeParked =>
    let (stack, s) := b.scheduler.takeParked
    return (.stack stack, { b with scheduler := s })
  | .releaseAll =>
    let (teardown, s) := b.scheduler.releaseAll
    return (.tornDown teardown, { b with scheduler := s })
  | .detachRunning => do
    let (stack, s) ← b.scheduler.detachRunning
    return (.stack stack, ⟨s, stack.or b.held⟩)
  | .adoptMain =>
    match b.held with
    | none => return (.stack none, b)
    | some stack => do return (.stack (some stack), ⟨← b.scheduler.adoptMain stack, none⟩)
  | .releaseMain => do
    let (stack, s) ← b.scheduler.releaseMain
    return (.stack stack, { b with scheduler := s })

/-- What a caller does at once when a decision is due: ask for one and take the parked stack. -/
def decide (b : Bench κ) : Except Halt ((Switch × Option Stack) × Bench κ) := do
  let (switch, s) ← b.scheduler.schedule
  let (stack, s) := s.takeParked
  return ((switch, stack), { b with scheduler := s })

/-- Makes the decision that `answer` calls for, if any. -/
def settle (b : Bench κ) (answer : Answer) :
    Except Halt (Option (Switch × Option Stack) × Bench κ) :=
  if answer.callsForDecision then do
    let (decision, b) ← b.decide
    return (some decision, b)
  else .ok (none, b)

/-- One operation of a disciplined run. -/
def act (b : Bench κ) (prime : Tid → Stack → Option κ) (op : Op) :
    Except Halt ((Answer × Option (Switch × Option Stack)) × Bench κ) := do
  let (answer, b) ← b.apply prime op
  let (decision, b) ← b.settle answer
  return ((answer, decision), b)

end Bench

end RoundRobin.Scheduler
