import RoundRobin.Stack

/-!
# Settings

A quantum is a positive number of microseconds. Stack sizes are raised to a minimum and rounded up
to whole pages when they are set, so that the size that is shown is the size that a thread gets.
-/

namespace RoundRobin

/-- Slots of a process-wide thread table, the main thread's included. -/
def maxThreads : Nat := 100

/-- Stack size of a spawned thread unless another one is set. -/
def defaultStackSize : Nat := 64 * 1024

/-- Smallest stack size that can be set. -/
def minStackSize : Nat := 16 * 1024

/-- Length of one turn on the processor. -/
structure Quantum where
  micros : Nat
  positive : 0 < micros
  deriving DecidableEq, Repr

def Quantum.ofMicros (micros : Nat) : Except Error Quantum :=
  if h : 0 < micros then .ok ⟨micros, h⟩ else .error .invalidQuantum

structure Config where
  quantum : Quantum
  stackSize : Nat
  deriving DecidableEq, Repr

namespace Config

def ofMicros (micros : Nat) : Except Error Config :=
  (Quantum.ofMicros micros).map fun quantum => ⟨quantum, defaultStackSize⟩

def withStackSize (c : Config) (bytes : Nat) : Except Halt Config := do
  return { c with stackSize := ← roundToPages (max bytes minStackSize) pageSize }

end Config

end RoundRobin
