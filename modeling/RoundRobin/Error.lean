import RoundRobin.OsError

/-!
# Refusals

What a caller is told when an operation is refused. A refused operation has changed nothing. The
two errors that pass on a reason of the operating system keep its number and print its text.
-/

namespace RoundRobin

/-- Number by which a thread is known. Number 0 is the main thread: it always exists. -/
abbrev Tid := Nat

inductive Error where
  | invalidQuantum
  | noEntryPoint
  | tableFull
  | invalidTid (tid : Tid)
  | invalidSleep
  | uninitialized
  | foreignThread
  | stackAllocation (reason : OsError)
  | timer (reason : OsError)
  deriving DecidableEq, Repr

namespace Error

def message : Error → String
  | .invalidQuantum => "quantum length must be a positive number of microseconds"
  | .noEntryPoint => "cannot spawn a thread without an entry point"
  | .tableFull => "thread table is full"
  | .invalidTid tid => s!"invalid thread id {tid}"
  | .invalidSleep => "only spawned threads may sleep, and for at least one quantum"
  | .uninitialized => "the thread runtime has not been initialized"
  | .foreignThread => "the thread runtime belongs to another OS thread"
  | .stackAllocation reason => "failed to allocate a thread stack: " ++ reason.message
  | .timer reason => "failed to arm the preemption timer: " ++ reason.message

/-- The operating system's failure behind an error, where there is one. -/
def source : Error → Option OsError
  | .stackAllocation reason => some reason
  | .timer reason => some reason
  | _ => none

end Error

end RoundRobin
