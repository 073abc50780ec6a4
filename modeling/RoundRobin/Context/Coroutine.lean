import RoundRobin.Context.Cpu

/-!
# Coroutines

Coroutines on primed stacks that hand control to each other along given paths. Each one counts how
often it was entered, adds up a number, and notes the control words it finds; it may then load
others, which stay its own.
-/

namespace RoundRobin

structure Coroutine where
  hits : Nat
  sum : UInt64
  seenMxcsr : UInt32
  seenFcw : UInt16
  deriving DecidableEq, Repr

/-- One excursion of the main context along `path` and back. -/
structure Excursion where
  path : List Nat
  add : UInt64
  mxcsr : Option UInt32
  fcw : Option UInt16
  mainMxcsr : Option UInt32
  deriving DecidableEq, Repr

/-- Coroutines `0, 1, …` with the machine they run on. The main context is the next number. -/
structure Troupe where
  cpu : Cpu
  members : List Coroutine

namespace Troupe

/-- Address at which fresh contexts start. -/
def trampolineAddress : UInt64 := 0x1000

/-- Address of the function that every coroutine runs. -/
def startAddress : UInt64 := 0x2000

/-- Bytes of stack for each context. -/
def stackBytes : Nat := 4096

/-- Upper end of the stack of context `i`. -/
def stackTop (i : Nat) : Nat := 0x100000 + (i + 1) * stackBytes

/-- Primes the contexts `0, …, n - 1`. -/
def primeAll (c : Cpu) : Nat → Except Halt Cpu
  | 0 => .ok c
  | n + 1 => do
    let c ← primeAll c n
    let (frame, memory) ←
      prime c.memory (stackTop n) trampolineAddress startAddress (.ofNat n)
    return { c with memory, saved := fun i => if i = n then frame else c.saved i }

/-- `count` coroutines that have not run, with the main context on a stack of its own. -/
def new (count : Nat) : Except Halt Troupe := do
  let cpu ← primeAll
    { rsp := stackTop count
      rip := 0
      reg := fun _ => 0
      mxcsr := defaultMxcsr
      fcw := defaultFcw
      memory := .zero
      saved := fun _ => 0 } count
  return ⟨cpu, List.replicate count ⟨0, 0, 0, 0⟩⟩

def main (t : Troupe) : Nat := t.members.length

/-- Switches from one context to another; a fresh one runs through the trampoline. -/
def switch (t : Troupe) (source target : Nat) : Troupe :=
  let cpu := t.cpu.switch source target (.ofNat (0x3000 + source))
  { t with cpu := if cpu.rip = trampolineAddress then cpu.trampoline 0 else cpu }

/-- What coroutine `i` does when it is entered. -/
def enter (t : Troupe) (i : Nat) (e : Excursion) : Troupe :=
  { cpu :=
      { t.cpu with
        mxcsr := e.mxcsr.getD t.cpu.mxcsr
        fcw := (e.fcw.map FloatControl.load).getD t.cpu.fcw }
    members := t.members.modify i fun m =>
      { hits := m.hits + 1
        sum := m.sum + e.add
        seenMxcsr := t.cpu.mxcsr
        seenFcw := t.cpu.fcw.bits } }

/-- Follows a path from context `source` and returns to the main context. -/
def follow (t : Troupe) (e : Excursion) (source : Nat) : List Nat → Troupe
  | [] => t.switch source t.main
  | i :: rest => ((t.switch source i).enter i e).follow e i rest

def step (t : Troupe) (e : Excursion) : Troupe :=
  let t := { t with cpu := { t.cpu with mxcsr := e.mainMxcsr.getD t.cpu.mxcsr } }
  t.follow e t.main e.path

end Troupe

end RoundRobin
