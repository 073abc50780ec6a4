/-!
# Ways to stop without an answer

A computation stops in one of two ways. A `Fault` is a checked operation outside its domain: an
overflow, a division by zero, an index beyond a table. An `Abort` is the library giving up because
one of its own rules no longer holds. Refusals that a caller can act on are not here.
-/

namespace RoundRobin

/-- A checked operation left its domain. -/
inductive Fault where
  | addOverflow
  | subOverflow
  | mulOverflow
  | divideByZero
  | remainderByZero
  | indexOutOfRange (length index : Nat)
  | noRoomForMain
  | capacityOverflow
  deriving DecidableEq, Repr

def Fault.message : Fault → String
  | .addOverflow => "attempt to add with overflow"
  | .subOverflow => "attempt to subtract with overflow"
  | .mulOverflow => "attempt to multiply with overflow"
  | .divideByZero => "attempt to divide by zero"
  | .remainderByZero => "attempt to calculate the remainder with a divisor of zero"
  | .indexOutOfRange length index =>
    s!"index out of bounds: the len is {length} but the index is {index}"
  | .noRoomForMain => "the thread table needs room for the main thread"
  | .capacityOverflow => "capacity overflow"

/-- A rule of the library no longer holds, so the process is given up. -/
inductive Abort where
  /-- A thread became ready while the queue was full. -/
  | queueOverflow
  /-- A decision was asked for and nothing was ready. -/
  | emptyQueue
  /-- The program of a spawned thread failed. -/
  | entryFailed
  /-- A thread that had ended got the processor back. -/
  | endedRanAgain
  /-- A thread that had handed the process over got the processor back. -/
  | ranAfterShutdown
  /-- A thread that had returned was refused its own termination. -/
  | returnRefused
  /-- An adopted main thread returned and the process went on. -/
  | adoptedReturned
  /-- A thread that was never suspended was to be continued. -/
  | lostContext
  /-- There is no memory for a table of this size. -/
  | allocationFailed (bytes : Nat)
  deriving DecidableEq, Repr

def Abort.message : Abort → String
  | .queueOverflow => "ready queue overflow"
  | .emptyQueue => "scheduler invoked with an empty ready queue"
  | .entryFailed => "thread entry panicked"
  | .endedRanAgain => "a terminated thread was scheduled again"
  | .ranAfterShutdown => "a thread resumed after process shutdown"
  | .returnRefused => "a returning thread could not terminate itself"
  | .adoptedReturned => "adopted main thread returned but the process did not exit"
  | .lostContext => "a thread without a saved context was scheduled"
  | .allocationFailed bytes => s!"memory allocation of {bytes} bytes failed"

inductive Halt where
  | fault (f : Fault)
  | abort (a : Abort)
  deriving DecidableEq, Repr

end RoundRobin
