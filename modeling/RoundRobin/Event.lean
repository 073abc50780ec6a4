import RoundRobin.Error

/-!
# The event log

What the library reports while it works. Each event has a level, a message and named values; how
and whether it is shown is decided elsewhere.
-/

namespace RoundRobin

/-- Levels of a log, most urgent first. -/
inductive Level where
  | error
  | warn
  | info
  | debug
  | trace
  deriving DecidableEq, Repr

namespace Level

def name : Level → String
  | .error => "ERROR"
  | .warn => "WARN"
  | .info => "INFO"
  | .debug => "DEBUG"
  | .trace => "TRACE"

/-- Detail of a level: a log that shows a level shows those of less detail. -/
def rank : Level → Nat
  | .error => 1
  | .warn => 2
  | .info => 3
  | .debug => 4
  | .trace => 5

end Level

/-- A value attached to an event. -/
inductive Field where
  | number (n : Nat)
  | text (s : String)
  deriving DecidableEq, Repr

def Field.render : Field → String
  | .number n => toString n
  | .text s => s

inductive Event where
  | initialized (micros stackSize capacity : Nat)
  | spawned (tid : Tid) (ready : Nat)
  | terminated (tid : Tid)
  /-- The main thread ended the process itself. -/
  | exiting (released : Nat)
  /-- A spawned thread asked for the end of the process. -/
  | handingOff (source : Tid)
  /-- A teardown ran on a stack of its own table and had to leave it mapped. -/
  | leaking (tid : Tid)
  | shutDown (released : Nat)
  | retired (released : Nat)
  | reinitializing
  deriving DecidableEq, Repr

namespace Event

def level : Event → Level
  | .initialized .. | .exiting _ | .handingOff _ => .info
  | .spawned .. | .terminated _ | .shutDown _ | .retired _ => .debug
  | .leaking _ | .reinitializing => .warn

def message : Event → String
  | .initialized .. => "thread runtime initialized"
  | .spawned .. => "spawned thread"
  | .terminated _ => "terminated thread"
  | .exiting _ => "main thread terminated, exiting"
  | .handingOff _ => "main thread terminated, handing off for shutdown"
  | .leaking _ => "runtime dropped while executing on a stack it owns; leaking that stack"
  | .shutDown _ => "thread runtime shut down"
  | .retired _ => "thread runtime retired, core kept for the adopted thread"
  | .reinitializing => "re-initializing the thread runtime; existing threads are discarded"

def fields : Event → List (String × Field)
  | .initialized micros stackSize capacity =>
    [("quantum_us", .number micros), ("stack_size", .number stackSize),
      ("max_threads", .number capacity)]
  | .spawned tid ready => [("tid", .text (toString tid)), ("ready", .number ready)]
  | .terminated tid => [("tid", .text (toString tid))]
  | .exiting released => [("released", .number released)]
  | .handingOff source => [("from", .text (toString source))]
  | .leaking tid => [("tid", .text (toString tid))]
  | .shutDown released => [("released", .number released)]
  | .retired released => [("released", .number released)]
  | .reinitializing => []

end Event

end RoundRobin
