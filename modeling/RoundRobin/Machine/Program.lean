import RoundRobin.Host.Call

/-!
# Programs

What a thread does: calls, ticks, loops and masked stretches. `Deed` names what a trace reports, and
`Result` what came of it.
-/

namespace RoundRobin

/-- A thread by number, or the thread that runs. -/
inductive Target where
  | self
  | tid (tid : Tid)
  deriving DecidableEq, Repr

inductive Instr where
  | call (c : Call Target)
  /-- A call made from another OS thread. -/
  | foreign (c : Call Target)
  /-- Fires the manual timer. -/
  | fire
  /-- Raises the preemption signal on the own OS thread. -/
  | raise
  /-- Has another OS thread raise the preemption signal on itself. -/
  | raiseElsewhere
  | readTimer
  | readSignal
  | readConfig
  | loop (times : Nat) (body : List Instr)
  /-- Runs the body while a thread lives, a bounded number of times. Which thread is meant is
  settled before the first round. -/
  | whileAlive (t : Target) (body : List Instr)
  /-- Runs the body with preemption held off. -/
  | masked (body : List Instr)
  /-- Ends the whole program. -/
  | stop
  /-- Ends the whole program in failure. -/
  | fail
  /-- Ends the dispatcher, and the run. -/
  | close
  deriving Inhabited

/-- Most rounds of a `whileAlive`. -/
def aliveRounds : Nat := 40

/-- What a trace says was done. -/
inductive Deed where
  | started
  | returned
  | initialized
  | initializedWith
  | spawned
  | spawnedNothing
  | terminated
  | blocked
  | resumed
  | slept
  | readCurrent
  | readTotal
  | readQuanta
  | readState
  | foreign
  | ticked
  | tickedElsewhere
  | readTimer
  | readSignal
  | readConfig
  | masked
  deriving DecidableEq, Repr

/-- The deed that a call amounts to. -/
def Call.deed {τ : Type} : Call τ → Deed
  | .init _ none => .initialized
  | .init _ (some _) => .initializedWith
  | .spawn (some _) => .spawned
  | .spawn none => .spawnedNothing
  | .terminate _ => .terminated
  | .block _ => .blocked
  | .resume _ => .resumed
  | .sleep _ => .slept
  | .current => .readCurrent
  | .total => .readTotal
  | .quantaOf _ => .readQuanta
  | .stateOf _ => .readState

inductive Result where
  | nothing
  | answer (a : Answer)
  | fired (armed : Bool)
  | timer (armed : Bool) (micros : Option Nat) (rearms : Nat)
  | signal (interval : Nat × Nat) (disposition : Disposition) (forwarded : Nat)
  | config (micros stackSize : Nat)
  | forwarded (count : Nat)
  | unmasked
  deriving DecidableEq, Repr

end RoundRobin
