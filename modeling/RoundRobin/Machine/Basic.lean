import RoundRobin.Machine.Program

/-!
# Threads at work

The machine executes the programs of all threads, one small step at a time. What the running thread
has still to do is a list of frames, its `control`; that of a suspended thread lies in its slot of
the thread table, where a switch puts it and fetches it. The preemption mask is one bit of the
whole process: each thread's critical sections keep on its own control the value to put back.

Every change of the scheduler is a step of its own, made while the mask is set. A waiting signal is
delivered before the next step once the mask is clear.
-/

namespace RoundRobin

/-- On whose behalf a request is made. -/
inductive Caller where
  /-- The program: the answer is reported under a name. -/
  | program (did : Deed)
  /-- A thread whose program is over. -/
  | returning
  /-- An adopted main thread whose program is over. -/
  | adopted
  deriving DecidableEq, Repr

/-- A piece of work of a thread. Threads that run on a stack of the library's know the generation
of the dispatcher that spawned them and the base of that stack. -/
inductive Frame where
  | run (program : List Instr)
  | loop (times : Nat) (body : List Instr)
  | whileAlive (left : Nat) (tid : Tid) (body : List Instr)
  | note (did : Deed) (result : Result)
  | perform (r : Request) (guard : Guard) (caller : Caller)
  /-- One decision forced by a tick. -/
  | preempt (guard : Guard)
  /-- First work of a thread that was switched to. -/
  | reap
  | restore (guard : Guard)
  | unmask
  | abort (a : Abort)
  /-- The main program has failed. -/
  | fault (f : Fault)
  /-- Start of a fresh thread. -/
  | start (generation base : Nat)
  | fetch (generation base : Nat) (guard : Guard)
  /-- The program of a spawned thread is over. -/
  | returned (generation base : Nat)
  | finish (generation base : Nat)
  /-- The main program is over and its dispatcher ends with it. -/
  | close
  | dispose (guard : Guard)
  | closed
  /-- The process ends as it stands. -/
  | quit

/-- What a thread has still to do, first thing first. -/
abbrev Control := List Frame

/-- The state of affairs when a note is written. -/
structure Note where
  tid : Tid
  did : Deed
  result : Result
  total : Nat
  masked : Bool
  /-- The live threads in order: number, state, turns begun. -/
  threads : List (Tid × ThreadState × Nat)
  deriving DecidableEq, Repr

inductive Entry where
  | event (e : Event)
  | note (n : Note)
  /-- The dispatcher was ended by a program. -/
  | closed (masked : Bool)
  deriving DecidableEq, Repr

inductive Ending where
  | done
  | exited
  | aborted (a : Abort)
  | faulted (f : Fault)
  /-- The preemption signal killed the process. -/
  | killed
  deriving DecidableEq, Repr

/-- What a system objects to. It may look at the whole process, so it need not give the same answer
to the same request twice. -/
abbrev System := Host Control → Control → List Entry → Objections

/-- The system of a process that has its memory to itself. -/
def System.roomy : System := fun _ _ _ => .few

structure Machine where
  /-- Programs of spawned threads, by number. -/
  programs : List (List Instr)
  system : System
  host : Host Control
  control : Control
  /-- What happened, latest first. -/
  trace : List Entry
  ending : Option Ending

/-- The OS thread on which all programs run. -/
def homeThread : OsThread := 1

/-- Another OS thread. -/
def otherThread : OsThread := 2

/-- Start of a thread spawned by the dispatcher of a generation. -/
def primeControl (generation : Nat) (_ : Tid) (stack : Stack) : Option Control :=
  some [.start generation stack.base]

/-- Whether a frame is still to be worked off after the program has returned early. -/
def Frame.outlivesReturn : Frame → Bool
  | .restore _ | .returned .. | .close | .quit => true
  | _ => false

/-- What a failure that passes through a frame leaves of it: critical sections are left. -/
def Frame.unwound : Frame → Control
  | .restore guard | .perform _ guard _ | .preempt guard | .fetch _ _ guard | .dispose guard =>
    [.restore guard]
  | _ => []

/-- What is left to do after a failure. The failure of a spawned thread's program gives the process
up; that of the main program ends in `last`. -/
def unwind (last : Frame) : Control → Control
  | [] => [last]
  | .returned .. :: _ => [.abort .entryFailed]
  | frame :: rest => frame.unwound ++ unwind last rest

/-- What is left to do once a request has its answer. -/
def Caller.conclude (caller : Caller) (guard : Guard) (a : Answer) : Control :=
  match caller, a with
  | .program did, a => [.restore guard, .note did (.answer a)]
  | .returning, .refused _ => [.abort .returnRefused]
  | .returning, _ => [.abort .endedRanAgain]
  | .adopted, _ => [.abort .adoptedReturned]

namespace Machine

def finish (m : Machine) (ending : Ending) : Machine := { m with ending := some ending }

/-- An abort stops the process at once. A fault is a failure of the running program: the critical
sections it is in are left first, so a waiting signal may come in between. -/
def halt (m : Machine) : Halt → Machine
  | .abort a => m.finish (.aborted a)
  | .fault f => { m with control := unwind (.fault f) m.control }

/-- Goes on with the result of a computation that may halt. -/
def proceed {α : Type} (m : Machine) (r : Except Halt α) (f : α → Machine) : Machine :=
  match r with
  | .ok a => f a
  | .error h => m.halt h

def record (m : Machine) (entries : List Entry) : Machine :=
  { m with trace := entries.reverse ++ m.trace }

def log (m : Machine) (events : List Event) : Machine := m.record (events.map .event)

def masked (m : Machine) : Bool := m.host.signal.masked

/-- What the system objects to now. -/
def objections (m : Machine) : Objections := m.system m.host m.control m.trace

/-- The live threads of a table: number, state, turns begun. -/
def liveThreads (s : Scheduler Control) : List (Tid × ThreadState × Nat) :=
  (List.range s.threads.length).filterMap fun tid =>
    match s.thread tid with
    | .ok t => some (tid, t.state, t.quanta)
    | .error _ => none

/-- Writes a note about what the running thread has done. -/
def note (m : Machine) (did : Deed) (result : Result) : Machine :=
  let visible := m.host.visible homeThread
  m.record [.note
    { tid := m.host.currentTid homeThread
      did, result
      total := m.host.totalQuanta homeThread
      masked := m.masked
      threads := visible.elim [] fun d => liveThreads d.scheduler }]

/-- Enters a critical section; the work inside is told how to leave it. -/
def guarded (m : Machine) (work : Guard → Control) (rest : Control) : Machine :=
  let (guard, host) := m.host.enter
  { m with host, control := work guard ++ rest }

/-- Carries out a switch: stores what the outgoing thread has to do when it is back, and takes up
the incoming one. -/
def switch (m : Machine) (s : Switch) (back : Control) : Machine :=
  m.proceed (m.host.exchange s back) fun (control, host) => { m with host, control }

/-- Makes the decision of a tick. -/
def preempt (m : Machine) (guard : Guard) (rest : Control) : Machine :=
  match m.host.dispatcher with
  | none => { m with control := rest }
  | some d =>
    m.proceed (m.host.reschedule d false) fun (s, host) =>
      { m with host }.switch s (.reap :: .restore guard :: rest)

/-- Goes on after a request. -/
def follow (m : Machine) (outcome : Outcome) (guard : Guard) (caller : Caller)
    (rest : Control) : Machine :=
  match outcome with
  | .returns a => { m with control := caller.conclude guard a ++ rest }
  | .suspends s => m.switch s (.reap :: caller.conclude guard .done ++ rest)
  | .ends s => m.switch s (.reap :: .abort .endedRanAgain :: rest)
  | .handsOver s => m.switch s (.abort .ranAfterShutdown :: rest)
  | .exits => m.finish .exited

def perform (m : Machine) (r : Request) (guard : Guard) (caller : Caller) (rest : Control) :
    Machine :=
  m.proceed (m.host.perform m.objections primeControl r) fun report =>
    ({ m with host := report.host }.log report.events).follow report.outcome guard caller rest

/-- The thread that a program means. -/
def resolve (m : Machine) : Target → Tid
  | .self => m.host.currentTid homeThread
  | .tid tid => tid

def isAlive (m : Machine) (tid : Tid) : Bool :=
  match m.host.visible homeThread with
  | none => false
  | some d => (d.scheduler.stateOf tid).isOk

/-- Goes on with a note about what was done. -/
def answer (m : Machine) (did : Deed) (result : Result) (rest : Control) : Machine :=
  { m with control := .note did result :: rest }

def call (m : Machine) (c : Call Target) (rest : Control) : Machine :=
  m.proceed (m.host.examine homeThread (c.map m.resolve)) fun (admission, host) =>
    let m := { m with host }
    match admission with
    | .answer a => m.answer c.deed (.answer a) rest
    | .request r => m.guarded (fun guard => [.perform r guard (.program c.deed)]) rest

def callElsewhere (m : Machine) (c : Call Target) (rest : Control) : Machine :=
  m.proceed (m.host.call m.objections primeControl otherThread (c.map m.resolve)) fun report =>
    let m := { m with host := report.host }.log report.events
    match report.outcome with
    | .returns a => m.answer .foreign (.answer a) rest
    | _ => m.answer .foreign .nothing rest

/-- Fires the manual timer; an unarmed one does nothing. -/
def fire (m : Machine) (rest : Control) : Machine :=
  match m.host.dispatcher with
  | some { timer := .manual t, .. } =>
    if t.isArmed then
      m.guarded (fun guard => [.preempt guard]) (.note .ticked (.fired true) :: rest)
    else m.answer .ticked (.fired false) rest
  | _ => m.answer .ticked (.fired false) rest

/-- Has another OS thread raise the signal while this one holds it off. -/
def raiseElsewhere (m : Machine) (rest : Control) : Machine :=
  let (guard, host) := m.host.enter
  match host.signal.raiseElsewhere with
  | none => m.finish .killed
  | some signal =>
    { m with
      host := { host with signal }
      control := .restore guard :: .note .tickedElsewhere (.forwarded signal.forwarded) :: rest }

def readTimer (m : Machine) : Result :=
  match m.host.dispatcher with
  | some { timer := .manual t, .. } => .timer t.isArmed (t.quantum.map Quantum.micros) t.rearms
  | _ => .nothing

def readSignal (m : Machine) : Result :=
  let s := m.host.signal
  .signal (interval s.period) s.disposition s.forwarded

def readConfig (m : Machine) : Result :=
  match m.host.dispatcher with
  | some d => .config d.config.quantum.micros d.config.stackSize
  | none => .nothing

/-- Executes one instruction of the running thread; `rest` is what comes after it. -/
def execute (m : Machine) (rest : Control) : Instr → Machine
  | .call c => m.call c rest
  | .foreign c => m.callElsewhere c rest
  | .fire => m.fire rest
  | .raise => { m with host.signal := m.host.signal.raise }.answer .ticked .nothing rest
  | .raiseElsewhere => m.raiseElsewhere rest
  | .readTimer => m.answer .readTimer m.readTimer rest
  | .readSignal => m.answer .readSignal m.readSignal rest
  | .readConfig => m.answer .readConfig m.readConfig rest
  | .loop times body => { m with control := .loop times body :: rest }
  | .whileAlive t body => { m with control := .whileAlive aliveRounds (m.resolve t) body :: rest }
  | .masked body =>
    m.guarded (fun guard => [.run body, .restore guard]) (.note .masked .unmasked :: rest)
  | .stop => { m with control := rest.filter Frame.outlivesReturn }
  | .fail => { m with control := unwind (.abort .entryFailed) m.control }
  | .close => m.guarded (fun guard => [.dispose guard]) (.closed :: rest)

/-- What a spawned thread does after its program: it ends itself, or the process if it became the
main thread of a later dispatcher. -/
def finishThread (m : Machine) (generation : Nat) (rest : Control) : Machine :=
  match m.host.dispatcher with
  | none => m.halt (.abort .lostContext)
  | some d =>
    if generation = d.generation then
      m.guarded (fun guard => [.perform (.terminate d.shownTid) guard .returning]) rest
    else m.guarded (fun guard => [.perform (.terminate 0) guard .adopted]) rest

/-- The program of the running thread, with what comes before and after it. -/
def fetch (m : Machine) (generation base : Nat) (guard : Guard) (rest : Control) : Machine :=
  match m.host.dispatcher with
  | none => m.halt (.abort .lostContext)
  | some d =>
    let body := match d.scheduler.entryOf d.scheduler.current with
      | some program =>
        [.note .started .nothing, .run ((m.programs[program]?).getD []), .returned generation base]
      | none => [.finish generation base]
    { m with control := .restore guard :: .unmask :: body ++ rest }

def reap (m : Machine) (rest : Control) : Machine :=
  match m.host.dispatcher with
  | none => m.halt (.abort .lostContext)
  | some d =>
    let (ended, host) := m.host.reap d
    if ended then { m with host }.finish .exited else { m with host, control := rest }

def dispose (m : Machine) (guard : Guard) (rest : Control) : Machine :=
  match m.host.dispatcher with
  | none => { m with control := .restore guard :: rest }
  | some d =>
    m.proceed (m.host.dispose d false) fun (events, host) =>
      { m with host, control := .restore guard :: rest }.log events

/-- Works off one frame. -/
def work (m : Machine) (rest : Control) : Frame → Machine
  | .run [] => { m with control := rest }
  | .run (i :: is) => m.execute (.run is :: rest) i
  | .loop 0 _ => { m with control := rest }
  | .loop (times + 1) body => { m with control := .run body :: .loop times body :: rest }
  | .whileAlive 0 _ _ => { m with control := rest }
  | .whileAlive (left + 1) tid body =>
    if m.isAlive tid then
      { m with control := .run body :: .whileAlive left tid body :: rest }
    else { m with control := rest }
  | .note did result => { m with control := rest }.note did result
  | .perform r guard caller => m.perform r guard caller rest
  | .preempt guard => m.preempt guard rest
  | .reap => m.reap rest
  | .restore guard => { m with host := m.host.leave guard, control := rest }
  | .unmask => { m with host.signal := m.host.signal.unmask, control := rest }
  | .abort a => m.halt (.abort a)
  | .fault f => m.finish (.faulted f)
  | .start generation base => m.guarded (fun guard => [.reap, .fetch generation base guard]) rest
  | .fetch generation base guard => m.fetch generation base guard rest
  | .returned generation base =>
    { m with control := .finish generation base :: rest }.note .returned .nothing
  | .finish generation _ => m.finishThread generation rest
  | .close => m.guarded (fun guard => [.dispose guard]) (.quit :: rest)
  | .dispose guard => m.dispose guard rest
  | .closed => (m.record [.closed m.masked]).finish .done
  | .quit => m.finish .done

/-- Delivers the waiting signal. The handler runs with the mask set and puts it back at its end. -/
def deliver (m : Machine) : Machine :=
  let (delivery, signal) := m.host.signal.deliver
  match delivery with
  | .killed => m.finish .killed
  | .dropped => { m with host.signal := signal }
  | .invoked _ =>
    let (guard, signal) := signal.enter
    let (inner, signal) := signal.enter
    { m with
      host.signal := signal
      control := .preempt inner :: .restore guard :: m.control }

/-- One step of the process. -/
def step (m : Machine) : Machine :=
  match m.ending with
  | some _ => m
  | none =>
    if m.host.signal.isDeliverable then m.deliver
    else
      match m.control with
      | [] => m.finish .done
      | frame :: rest => m.work rest frame

/-- At most `steps` steps. A process that keeps starting over may run for ever, so the bound is the
caller's. -/
def run : (steps : Nat) → Machine → Machine
  | 0, m => m
  | steps + 1, m =>
    match m.ending with
    | some _ => m
    | none => run steps m.step

/-- A process in which `main` runs and nothing has been initialised. -/
def process (main : List Instr) (programs : List (List Instr)) (system : System := .roomy) :
    Machine :=
  { programs
    system
    host := .fresh
    control := [.run main, .quit]
    trace := []
    ending := none }

/-- A dispatcher of its own with a manual timer, on which `main` runs. `armError` is what the timer
reports when it cannot be armed. -/
def standalone (capacity micros : Nat) (stackSize : Option Nat) (armError : Option OsError)
    (main : List Instr) (programs : List (List Instr)) (system : System := .roomy) :
    Except Halt (Except Error Machine) := do
  match ← Host.settings micros stackSize with
  | .error e => return .error e
  | .ok config =>
    let host : Host Control := { Host.fresh with owner := some homeThread }
    let (event, host) ← host.launch capacity config (.manual .new) none
    match armError with
    | some reason => return .error (.timer reason)
    | none =>
      return .ok
        { programs
          system
          host
          control := [.run main, .close]
          trace := [.event event]
          ending := none }

end Machine

end RoundRobin
