import RoundRobin.Scheduler.Basic
import RoundRobin.Preemption.ManualTimer
import RoundRobin.Preemption.Signal
import RoundRobin.Event

/-!
# The process that hosts the threads

A `Dispatcher` carries out what a scheduler decides: it publishes the running thread and the
quantum counter where they can be read without a critical section, and restarts the quantum when a
thread gives up the processor of its own accord. A `Host` is the process around it: the OS thread
that owns the dispatcher, the preemption signal, and the memory that stacks come from.

Operations say which switch is due and what happens when the suspended thread comes back; `exchange`
carries a switch out. A system may object to a mapping whenever it is asked for one. Nobody looks at
an address, so the base of a stack is a name for its mapping, and no name is given twice.
-/

namespace RoundRobin

/-- What preempts the threads of a dispatcher. -/
inductive Timer where
  | manual (t : ManualTimer Unit)
  | signal
  deriving DecidableEq, Repr

structure Dispatcher (κ : Type) where
  scheduler : Scheduler κ
  /-- The running thread, as published. -/
  shownTid : Tid
  /-- The quantum counter, as published. -/
  shownTotal : Nat
  config : Config
  timer : Timer
  /-- Which of the dispatchers of its process this is. -/
  generation : Nat
  deriving DecidableEq, Repr

/-- Takes over a scheduler and publishes what it says. -/
def Dispatcher.publish {κ : Type} (d : Dispatcher κ) (s : Scheduler κ) : Dispatcher κ :=
  { d with scheduler := s, shownTid := s.current, shownTotal := s.total }

/-- Number of an OS thread. -/
abbrev OsThread := Nat

structure Host (κ : Type) where
  /-- The OS thread of the first successful initialisation. -/
  owner : Option OsThread
  dispatcher : Option (Dispatcher κ)
  /-- The preemption signal; a callback is the generation of a dispatcher. -/
  signal : Signal Nat
  /-- Number of dispatchers made so far. -/
  generation : Nat
  /-- Name of the next mapping. -/
  nextBase : Nat
  /-- Stacks given back to the system, latest first. -/
  unmapped : List Stack
  deriving DecidableEq, Repr

/-- What a request comes to. -/
inductive Answer where
  | refused (e : Error)
  | done
  | tid (tid : Tid)
  | number (n : Nat)
  | state (s : ThreadState)
  deriving DecidableEq, Repr

/-- How the calling thread goes on after a request. -/
inductive Outcome where
  | returns (a : Answer)
  /-- The caller is off the processor and returns once it is back. -/
  | suspends (s : Switch)
  /-- The caller has ended and must not come back. -/
  | ends (s : Switch)
  /-- The caller has handed the process over to the main thread and must not come back. -/
  | handsOver (s : Switch)
  /-- The process exits. -/
  | exits
  deriving DecidableEq, Repr

/-- Operations made inside a critical section. -/
inductive Request where
  /-- Makes a dispatcher for the whole process, in place of the one there is. -/
  | install (config : Config)
  | spawn (entry : Option Nat)
  | terminate (tid : Tid)
  | block (tid : Tid)
  | resume (tid : Tid)
  | sleep (quanta : Nat)
  | quantaOf (tid : Tid)
  | stateOf (tid : Tid)
  deriving DecidableEq, Repr

/-- A request carried out: how the caller goes on, what was logged, and the host afterwards. -/
structure Report (κ : Type) where
  outcome : Outcome
  events : List Event
  host : Host κ
  deriving DecidableEq, Repr

namespace Host

variable {κ : Type}

/-- Name of the first mapping. -/
def firstBase : Nat := 0x100000000

/-- A process that has not been initialised. -/
def fresh : Host κ := ⟨none, none, .initial, 0, firstBase, []⟩

/-- Gives the next name to a mapping that the system does not object to. -/
def mapping (h : Host κ) (objections : Objections) : Nat → Except OsError Nat :=
  mapUnless objections h.nextBase

def put (h : Host κ) (d : Dispatcher κ) : Host κ := { h with dispatcher := some d }

def putScheduler (h : Host κ) (d : Dispatcher κ) (s : Scheduler κ) : Host κ :=
  h.put { d with scheduler := s }

/-- Gives stacks back to the system. -/
def unmap (h : Host κ) (gone : List Stack) : Host κ :=
  { h with unmapped := gone.reverse ++ h.unmapped }

/-- Restarts the quantum of `d` and stores `d`. -/
def rearm (h : Host κ) (d : Dispatcher κ) : Host κ :=
  match d.timer with
  | .manual t => h.put { d with timer := .manual t.rearm }
  | .signal => { h.put d with signal := h.signal.rearm }

/-- Stops the timer of `d` and stores `d`. -/
def disarm (h : Host κ) (d : Dispatcher κ) : Host κ :=
  match d.timer with
  | .manual t => h.put { d with timer := .manual t.disarm }
  | .signal => { h.put d with signal := h.signal.disarm }

/-- Makes one decision and publishes it. A thread that gives up the processor of its own accord
leaves its successor a whole quantum. -/
def reschedule (h : Host κ) (d : Dispatcher κ) (voluntary : Bool) :
    Except Halt (Switch × Host κ) := do
  let (switch, s) ← d.scheduler.schedule
  let d := d.publish s
  return (switch, if voluntary then h.rearm d else h.put d)

/-- Stops the timer and gives back every stack of the table; counts the spawned threads' ones. -/
def teardown (h : Host κ) (d : Dispatcher κ) : Nat × Host κ :=
  let (t, s) := d.scheduler.releaseAll
  (t.released.length, (h.disarm { d with scheduler := s }).unmap t.mappings)

/-- What a thread does first when it is switched to: it gives back the stack of a predecessor that
ended itself, and the main thread ends the process if that was asked for. -/
def reap (h : Host κ) (d : Dispatcher κ) : Bool × Host κ :=
  let (stack, s) := d.scheduler.takeParked
  let d := { d with scheduler := s }
  let h := (h.put d).unmap stack.toList
  if s.shutdown && s.current == 0 then (true, (h.teardown d).2) else (false, h)

/-- Makes a dispatcher whose main thread is the caller, on `adopted` if that is a stack of the
library's, and arms its timer. -/
def launch (h : Host κ) (capacity : Nat) (config : Config) (timer : Timer)
    (adopted : Option Stack) : Except Halt (Event × Host κ) := do
  let s ← Scheduler.new capacity
  let s ← match adopted with
    | some stack => s.adoptMain stack
    | none => pure s
  let d : Dispatcher κ := ⟨s, s.current, s.total, config, timer, h.generation⟩
  let h := { h with generation := h.generation + 1 }
  let h := match timer with
    | .manual t => h.put { d with timer := .manual (t.arm config.quantum ()) }
    | .signal => { h.put d with signal := h.signal.arm config.quantum d.generation }
  return (.initialized config.quantum.micros config.stackSize capacity, h)

/-- Ends a dispatcher. A stack of its table that the caller runs on stays mapped. -/
def dispose (h : Host κ) (d : Dispatcher κ) (retired : Bool) :
    Except Halt (List Event × Host κ) := do
  let (own, s) ← d.scheduler.detachRunning
  let warning := if own.isSome then [Event.leaking d.shownTid] else []
  let (released, h) := h.teardown { d with scheduler := s }
  let closing := if retired then Event.retired released else Event.shutDown released
  return (warning ++ [closing], { h with dispatcher := none })

/-- Ends a dispatcher for a successor and hands over the stack that the caller runs on, if it is
the library's. A spawned caller outlives its dispatcher; the main thread's stack then goes. -/
def retire (h : Host κ) (d : Dispatcher κ) :
    Except Halt (Option Stack × List Event × Host κ) := do
  let (own, s) ← d.scheduler.detachRunning
  if s.current = 0 then
    let (events, h) ← h.dispose { d with scheduler := s } false
    return (own, events, h)
  else
    let (main, s) ← s.releaseMain
    let (events, h) ← (h.unmap main.toList).dispose { d with scheduler := s } true
    return (own, events, h)

/-- Replaces the dispatcher of the process. -/
def install (h : Host κ) (config : Config) : Except Halt (Report κ) := do
  match h.dispatcher with
  | none =>
    let (event, h) ← h.launch maxThreads config .signal none
    return ⟨.returns .done, [event], h⟩
  | some d =>
    let (adopted, events, h) ← h.retire d
    let (event, h) ← h.launch maxThreads config .signal adopted
    return ⟨.returns .done, .reinitializing :: events ++ [event], h⟩

/-- Suspends the caller by a decision of its own accord. -/
def suspend (h : Host κ) (d : Dispatcher κ) : Except Halt (Report κ) := do
  let (switch, h) ← h.reschedule d true
  return ⟨.suspends switch, [], h⟩

def spawn (h : Host κ) (d : Dispatcher κ) (objections : Objections)
    (prime : Tid → Stack → Option κ) (entry : Option Nat) : Except Halt (Report κ) := do
  let (answer, s) ← d.scheduler.spawn entry d.config.stackSize (h.mapping objections) prime
  match answer with
  | .error e => return ⟨.returns (.refused e), [], h.putScheduler d s⟩
  | .ok tid =>
    let stack := s.threads[tid]?.bind Thread.stack
    let nextBase := stack.elim h.nextBase Stack.top
    return ⟨.returns (.tid tid), [.spawned tid s.ready.len],
      { h.putScheduler d s with nextBase }⟩

def terminate (h : Host κ) (d : Dispatcher κ) (tid : Tid) : Except Halt (Report κ) := do
  let (answer, s) ← d.scheduler.terminate tid
  let d := { d with scheduler := s }
  match answer with
  | .error e => return ⟨.returns (.refused e), [], h.put d⟩
  | .ok (.removed stack) =>
    return ⟨.returns .done, [.terminated tid], (h.put d).unmap stack.toList⟩
  | .ok .ownEnd =>
    let (switch, h) ← h.reschedule d true
    return ⟨.ends switch, [], h⟩
  | .ok .processEnd =>
    if s.current = 0 then
      let (released, h) := h.teardown d
      return ⟨.exits, [.exiting released], h⟩
    else
      let (switch, s') ← s.handOff
      return ⟨.handsOver switch, [.handingOff s.current], h.put (d.publish s')⟩

/-- Answers with what `f` makes of a result, or with the refusal. -/
def answered {α : Type} (h : Host κ) (f : α → Answer) : Except Error α → Report κ
  | .ok a => ⟨.returns (f a), [], h⟩
  | .error e => ⟨.returns (.refused e), [], h⟩

/-- Follows up an operation that may have suspended the caller. -/
def suspended (h : Host κ) (d : Dispatcher κ) :
    Except Error Suspension × Scheduler κ → Except Halt (Report κ)
  | (.error e, s) => .ok ⟨.returns (.refused e), [], h.putScheduler d s⟩
  | (.ok .goOn, s) => .ok ⟨.returns .done, [], h.putScheduler d s⟩
  | (.ok .reschedule, s) => h.suspend { d with scheduler := s }

/-- Carries out a request of a thread of the owner. `prime` makes the start of a thread spawned by
the dispatcher of the given generation. -/
def perform (h : Host κ) (objections : Objections) (prime : Nat → Tid → Stack → Option κ)
    (r : Request) : Except Halt (Report κ) :=
  match r, h.dispatcher with
  | .install config, _ => h.install config
  | _, none => .ok ⟨.returns (.refused .uninitialized), [], h⟩
  | .spawn entry, some d => h.spawn d objections (prime d.generation) entry
  | .terminate tid, some d => h.terminate d tid
  | .block tid, some d => do h.suspended d (← d.scheduler.block tid)
  | .sleep quanta, some d => do h.suspended d (← d.scheduler.sleep quanta)
  | .resume tid, some d => do
    let (answer, s) ← d.scheduler.resume tid
    return (h.putScheduler d s).answered (fun _ => .done) answer
  | .quantaOf tid, some d => .ok (h.answered .number (d.scheduler.quantaOf tid))
  | .stateOf tid, some d => .ok (h.answered .state (d.scheduler.stateOf tid))

/-- Carries out a switch: stores `back`, from which the outgoing thread is continued, and gives what
the incoming one is continued from. -/
def exchange (h : Host κ) (s : Switch) (back : κ) : Except Halt (κ × Host κ) :=
  if s.isIdle then .ok (back, h)
  else
    match h.dispatcher with
    | none => .error (.abort .lostContext)
    | some d => do
      let scheduler ← d.scheduler.saveContext s.source back
      match ← scheduler.contextOf s.target with
      | none => .error (.abort .lostContext)
      | some next => return (next, h.putScheduler d scheduler)

end Host

end RoundRobin
