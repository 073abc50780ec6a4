import RoundRobin.ReadyQueue
import RoundRobin.Thread

/-!
# Scheduling decisions

The table of threads, the ready queue and the quantum counter, with the transitions that each
operation makes. Nothing here touches a stack or a register. An operation that takes the running
thread off the processor answers so, and the caller then asks for a decision with `schedule` and
carries it out.

Every operation is defined in every state, also in those that only a careless caller reaches: a
thread that has ended and is still current, or a number that is queued twice. Indices into the
table are checked, so a state that is not sound shows as a fault.
-/

namespace RoundRobin

/-- A decision: suspend `source`, continue `target`. The two may be the same thread. -/
structure Switch where
  source : Tid
  target : Tid
  deriving DecidableEq, Repr

def Switch.isIdle (s : Switch) : Bool := s.source == s.target

/-- Whether an operation took the running thread off the processor. -/
inductive Suspension where
  | goOn
  | reschedule
  deriving DecidableEq, Repr

inductive Termination where
  /-- Another thread ended; its stack is no longer needed. -/
  | removed (stack : Option Stack)
  /-- The running thread ended itself; its stack is parked until the next switch. -/
  | ownEnd
  /-- The main thread was to end, and so the process is. -/
  | processEnd
  deriving DecidableEq, Repr

structure Scheduler (κ : Type) where
  threads : List (Thread κ)
  ready : ReadyQueue
  current : Tid
  /-- Turns begun by all threads together. -/
  total : Nat
  /-- Stack of a thread that ended itself, kept until another thread runs. -/
  parked : Option Stack
  shutdown : Bool
  deriving DecidableEq, Repr

namespace Scheduler

variable {κ : Type}

/-- A table of `capacity` slots in which the main thread runs its first turn. -/
def new (capacity : Nat) : Except Halt (Scheduler κ) :=
  match (List.range capacity).map Thread.unused with
  | [] => .error (.fault .noRoomForMain)
  | main :: rest => .ok
      { threads := main.markRunning :: rest
        ready := .empty capacity
        current := 0
        total := 1
        parked := none
        shutdown := false }

/-- The record of a live thread. The main thread counts as live whatever its slot says. -/
def thread (s : Scheduler κ) (tid : Tid) : Except Error (Thread κ) :=
  match s.threads[tid]? with
  | some t => if tid = 0 ∨ ¬ t.isUnused then .ok t else .error (.invalidTid tid)
  | none => .error (.invalidTid tid)

def quantaOf (s : Scheduler κ) (tid : Tid) : Except Error Nat :=
  (s.thread tid).map Thread.quanta

def stateOf (s : Scheduler κ) (tid : Tid) : Except Error ThreadState :=
  (s.thread tid).map Thread.state

/-- Number of the program of a slot, live or not. -/
def entryOf (s : Scheduler κ) (tid : Tid) : Option Nat :=
  s.threads[tid]?.bind Thread.entry

/-- Queues a thread that is known to fit. -/
def enqueue (ready : ReadyQueue) (tid : Tid) : Except Halt ReadyQueue := do
  match ← ready.push tid with
  | some ready => return ready
  | none => .error (.abort .queueOverflow)

def enqueueAll (ready : ReadyQueue) : List Tid → Except Halt ReadyQueue
  | [] => .ok ready
  | tid :: rest => do enqueueAll (← enqueue ready tid) rest

/-- The lowest free slot, the main thread's apart. -/
def freeSlot? (s : Scheduler κ) : Option (Thread κ) :=
  s.threads.tail.find? Thread.isUnused

/-- Admits a thread that runs program `entry` at the lowest free number and queues it. Once its
stack exists, `prime` is called to build what the thread is first continued from; a call that
halts leaves no thread. -/
def spawnWith (s : Scheduler κ) (entry : Option Nat) (stackSize : Nat)
    (map : Nat → Except OsError Nat) (prime : Tid → Stack → Except Halt (Option κ)) :
    Except Halt (Except Error Tid × Scheduler κ) :=
  match entry with
  | none => .ok (.error .noEntryPoint, s)
  | some program =>
    match s.freeSlot? with
    | none => .ok (.error .tableFull, s)
    | some free => do
      let tid := free.tid
      match ← Stack.request map stackSize with
      | .error reason => return (.error (.stackAllocation reason), s)
      | .ok stack =>
        let context ← prime tid stack
        let slot ← Checked.get s.threads tid
        let threads ← Checked.set s.threads tid
          { slot with
            entry := some program
            context
            stack := some stack
            quanta := 0
            wakeAt := 0
            state := .ready }
        let ready ← enqueue s.ready tid
        return (.ok tid, { s with threads, ready })

/-- `spawnWith` for a `prime` that always succeeds. -/
def spawn (s : Scheduler κ) (entry : Option Nat) (stackSize : Nat)
    (map : Nat → Except OsError Nat) (prime : Tid → Stack → Option κ) :
    Except Halt (Except Error Tid × Scheduler κ) :=
  s.spawnWith entry stackSize map fun tid stack => .ok (prime tid stack)

/-- Puts the running thread back into the queue if it is still running: it was preempted. -/
def requeueRunning (threads : List (Thread κ)) (ready : ReadyQueue) (current : Tid) :
    Except Halt (List (Thread κ) × ReadyQueue) := do
  let outgoing ← Checked.get threads current
  if outgoing.state = .running then
    let threads ← Checked.set threads current outgoing.markReady
    let ready ← enqueue ready current
    return (threads, ready)
  else return (threads, ready)

/-- Decides who runs the next turn: wakes the threads whose deadline has passed, begins a new turn,
requeues the outgoing thread if it was preempted, and takes the front of the queue. -/
def schedule (s : Scheduler κ) : Except Halt (Switch × Scheduler κ) := do
  let (wakeups, threads) := expire s.total s.threads
  let ready ← enqueueAll s.ready (wakeups.filterMap Wakeup.runnable?)
  let total ← Checked.add s.total 1
  let (threads, ready) ← requeueRunning threads ready s.current
  match ← ready.pop with
  | none => .error (.abort .emptyQueue)
  | some (target, ready) =>
    let incoming ← Checked.get threads target
    let threads ← Checked.set threads target incoming.markRunning
    return (⟨s.current, target⟩, { s with threads, ready, total, current := target })

def setState (s : Scheduler κ) (tid : Tid) (state : ThreadState) : Scheduler κ :=
  { s with threads := s.threads.modify tid fun t => { t with state } }

/-- Holds a thread back until it is resumed. A sleeper stays asleep as well. -/
def block (s : Scheduler κ) (tid : Tid) : Except Halt (Except Error Suspension × Scheduler κ) :=
  if tid = 0 then .ok (.error (.invalidTid tid), s)
  else
    match s.stateOf tid with
    | .error e => .ok (.error e, s)
    | .ok .blocked => .ok (.ok .goOn, s)
    | .ok .sleeping | .ok .sleepBlocked => .ok (.ok .goOn, s.setState tid .sleepBlocked)
    | .ok _ =>
      if tid = s.current then .ok (.ok .reschedule, s.setState tid .blocked)
      else do
        let (_, ready) ← s.ready.remove tid
        return (.ok .goOn, { s.setState tid .blocked with ready })

/-- Lifts a block. A thread that still sleeps goes on sleeping. -/
def resume (s : Scheduler κ) (tid : Tid) : Except Halt (Except Error Unit × Scheduler κ) :=
  match s.stateOf tid with
  | .error e => .ok (.error e, s)
  | .ok .blocked => do
    let ready ← enqueue s.ready tid
    return (.ok (), { s.setState tid .ready with ready })
  | .ok .sleepBlocked => .ok (.ok (), s.setState tid .sleeping)
  | .ok _ => .ok (.ok (), s)

/-- Puts the running thread to sleep for `quanta` decisions. -/
def sleep (s : Scheduler κ) (quanta : Nat) :
    Except Halt (Except Error Suspension × Scheduler κ) :=
  if s.current = 0 ∨ quanta = 0 then .ok (.error .invalidSleep, s)
  else do
    let t ← Checked.get s.threads s.current
    let threads ← Checked.set s.threads s.current (t.putToSleep (addSaturating s.total quanta))
    return (.ok .reschedule, { s with threads })

/-- Ends a thread. Ending the main thread only asks for the end of the process. -/
def terminate (s : Scheduler κ) (tid : Tid) :
    Except Halt (Except Error Termination × Scheduler κ) :=
  if tid = 0 then .ok (.ok .processEnd, { s with shutdown := true })
  else
    match s.thread tid with
    | .error e => .ok (.error e, s)
    | .ok t => do
      let (stack, blank) := t.release
      let threads ← Checked.set s.threads tid blank
      let (_, ready) ← s.ready.remove tid
      if tid = s.current then
        return (.ok .ownEnd, { s with threads, ready, parked := stack })
      else return (.ok (.removed stack), { s with threads, ready })

/-- Gives the processor straight to the main thread, past every ready one. -/
def handOff (s : Scheduler κ) : Except Halt (Switch × Scheduler κ) := do
  let (_, ready) ← s.ready.remove 0
  let main ← Checked.get s.threads 0
  let threads ← Checked.set s.threads 0 { main with state := .running }
  return (⟨s.current, 0⟩, { s with threads, ready, current := 0 })

/-- Takes the parked stack. -/
def takeParked (s : Scheduler κ) : Option Stack × Scheduler κ :=
  (s.parked, { s with parked := none })

/-- Stacks given up by a teardown. -/
structure Teardown where
  parked : Option Stack
  /-- Stacks of the table, in table order. -/
  released : List Stack
  deriving DecidableEq, Repr

/-- All stacks of a teardown. -/
def Teardown.mappings (t : Teardown) : List Stack := t.parked.toList ++ t.released

/-- Blanks every slot but the main thread's and empties the queue. -/
def releaseAll (s : Scheduler κ) : Teardown × Scheduler κ :=
  (⟨s.parked, s.threads.tail.filterMap Thread.stack⟩,
    { s with
      ready := s.ready.reset
      parked := none
      threads := s.threads.take 1 ++ s.threads.tail.map fun t => t.release.2 })

/-- Takes the stack of slot `tid` out of the table. -/
def takeStack (s : Scheduler κ) (tid : Tid) : Except Halt (Option Stack × Scheduler κ) := do
  let t ← Checked.get s.threads tid
  let threads ← Checked.set s.threads tid { t with stack := none }
  return (t.stack, { s with threads })

/-- Takes the stack that the caller runs on, so that it outlives a teardown. -/
def detachRunning (s : Scheduler κ) : Except Halt (Option Stack × Scheduler κ) :=
  s.takeStack s.current

/-- Takes the stack that the main thread was given by `adoptMain`. -/
def releaseMain (s : Scheduler κ) : Except Halt (Option Stack × Scheduler κ) :=
  s.takeStack 0

/-- Lets the main thread own the stack it runs on. -/
def adoptMain (s : Scheduler κ) (stack : Stack) : Except Halt (Scheduler κ) := do
  let main ← Checked.get s.threads 0
  let threads ← Checked.set s.threads 0 { main with stack := some stack }
  return { s with threads }

/-- What slot `tid` is continued from, live or not. -/
def contextOf (s : Scheduler κ) (tid : Tid) : Except Halt (Option κ) := do
  return (← Checked.get s.threads tid).context

/-- Stores what slot `tid` is continued from, live or not. -/
def saveContext (s : Scheduler κ) (tid : Tid) (context : κ) : Except Halt (Scheduler κ) := do
  let t ← Checked.get s.threads tid
  let threads ← Checked.set s.threads tid { t with context := some context }
  return { s with threads }

/-- Checks table and queue against each other: one thread runs and it is the current one, the queue
holds the ready threads, spawned threads own stacks, and the main thread is awake. -/
def invariantsHold (s : Scheduler κ) : Except Halt Bool := do
  let running := s.threads.countP fun t => t.state == .running
  let current ← Checked.get s.threads s.current
  let queue ← s.threads.mapM fun t => do
    return (← s.ready.contains t.tid) == (t.state == .ready)
  let owned := s.threads.tail.all fun t => t.stack.isSome == !t.isUnused
  let main ← Checked.get s.threads 0
  return running == 1 && current.state == .running && queue.all id && owned
    && !main.state.isSleeping

end Scheduler

end RoundRobin
