import RoundRobin.Host.Call

/-!
# Workers of the demonstration

Workers do rounds of busy work. Each round is logged; after every third a worker sleeps for two
decisions, and after the first of three a worker with an even number blocks. The main thread
resumes whoever is blocked until nobody is left, and then ends the process. A round of work, of a
worker or of the main thread, takes a whole quantum, so the next tick comes at its end.
-/

namespace RoundRobin.Demo

/-- A line of the log. -/
structure Line where
  level : Level
  /-- The part of the program that wrote the line. -/
  part : String
  message : String
  fields : List (String × Field)
  deriving DecidableEq, Repr

/-- Names of what a line holds; the message counts as a field. -/
def Line.fieldNames (l : Line) : List String := "message" :: l.fields.map Prod.fst

def Line.render (l : Line) : String :=
  let fields := l.fields.map fun (name, value) => " " ++ name ++ "=" ++ value.render
  l.level.name ++ " " ++ l.part ++ ": " ++ l.message ++ String.join fields

def libraryPart : String := "uthreads::kernel"

def programPart : String := "uthreads_demo"

def Line.ofEvent (e : Event) : Line := ⟨e.level, libraryPart, e.message, e.fields⟩

/-- How the process ends. -/
inductive Closing where
  | exit (code : Nat)
  | halted (h : Halt)
  deriving DecidableEq, Repr

/-- Exit status of a process that is killed by its own abort signal. -/
def abortStatus : Nat := 134

namespace Closing

def status : Closing → Nat
  | .exit code => code
  | .halted _ => abortStatus

/-- What a process that halts writes past every filter. -/
def lastWords : Closing → List String
  | .exit _ => []
  | .halted (.fault f) => [f.message]
  | .halted (.abort a) => [a.message]

end Closing

/-- The demonstration under way. -/
structure Show where
  host : Host Unit
  /-- Rounds that each worker is to do. -/
  rounds : Nat
  /-- Workers in order of their start. -/
  workers : List Tid
  /-- Rounds that each thread has done, by number. -/
  finished : Array Nat
  /-- Lines written, latest first. -/
  lines : List Line
  /-- Set once the process is over. -/
  closing : Option Closing

namespace Show

def write (s : Show) (level : Level) (message : String) (fields : List (String × Field)) : Show :=
  { s with lines := ⟨level, programPart, message, fields⟩ :: s.lines }

def logEvents (s : Show) (events : List Event) : Show :=
  { s with lines := (events.map Line.ofEvent).reverse ++ s.lines }

def close (s : Show) (c : Closing) : Show := { s with closing := some c }

/-- What the incoming thread does first. -/
def takeTurn (s : Show) : Show :=
  match s.host.dispatcher with
  | none => s
  | some d =>
    let (ended, host) := s.host.reap d
    if ended then { s with host }.close (.exit 0) else { s with host }

/-- A quantum passes. -/
def tick (s : Show) : Show :=
  match s.host.dispatcher with
  | none => s
  | some d =>
    match s.host.reschedule d false with
    | .error h => s.close (.halted h)
    | .ok (_, host) => { s with host }.takeTurn

/-- Makes a request of the running thread and goes on with whoever runs then. -/
def request (s : Show) (r : Request) : Option Answer × Show :=
  match s.host.perform .few (fun _ _ _ => some ()) r with
  | .error h => (none, s.close (.halted h))
  | .ok report =>
    let s := { s with host := report.host }.logEvents report.events
    match report.outcome with
    | .returns a => (some a, s)
    | .suspends _ | .ends _ | .handsOver _ => (none, s.takeTurn)
    | .exits => (none, s.close (.exit 0))

def current (s : Show) : Tid := s.host.currentTid 0

def total (s : Show) : Nat := s.host.totalQuanta 0

/-- The turns that a thread has begun. -/
def quanta (s : Show) (tid : Tid) : Nat :=
  match s.host.dispatcher with
  | none => 0
  | some d => (d.scheduler.quantaOf tid).toOption.getD 0

/-- The rounds that a worker has done. -/
def roundsOf (s : Show) (tid : Tid) : Nat := s.finished.getD tid 0

/-- How a worker leaves the processor after a round, if it does. -/
def pause (tid round : Nat) : Option Request :=
  if round % 3 = 0 then some (.sleep 2)
  else if round % 3 = 1 ∧ tid % 2 = 0 then some (.block tid)
  else none

/-- One round of a worker, or its end. -/
def workerTurn (s : Show) (tid : Tid) : Show :=
  if s.roundsOf tid < s.rounds then
    let round := s.roundsOf tid + 1
    let s := s.write .info "worker progress"
      [("tid", .number tid), ("round", .number round), ("quanta", .number (s.quanta tid)),
        ("total", .number s.total)]
    let s := { s with finished := s.finished.setIfInBounds tid round }
    match pause tid round with
    | none => s.tick
    | some r =>
      match s.request r with
      | (some (.refused e), s) =>
        (s.write .warn "worker could not suspend"
          [("tid", .number tid), ("err", .text e.message)]).tick
      | (_, s) => s
  else (s.request (.terminate tid)).2

/-- Resumes a worker that is blocked; tells whether it lives. -/
def tend (s : Show) (tid : Tid) : Bool × Show :=
  match s.request (.stateOf tid) with
  | (some (.state .blocked), s) => (true, (s.request (.resume tid)).2)
  | (some (.state _), s) => (true, s)
  | (_, s) => (false, s)

/-- Looks after all workers; tells whether one lives. -/
def tendAll (s : Show) : List Tid → Bool × Show
  | [] => (false, s)
  | tid :: rest =>
    let (lives, s) := s.tend tid
    let (others, s) := s.tendAll rest
    (lives || others, s)

def mainTurn (s : Show) : Show :=
  let (alive, s) := s.tendAll s.workers
  if alive then s.tick
  else
    let s := s.write .info "all workers finished"
      [("workers", .number s.workers.length), ("total_quanta", .number s.total),
        ("main_quanta", .number (s.quanta 0))]
    (s.request (.terminate 0)).2

def turn (s : Show) : Show :=
  if s.current = 0 then s.mainTurn else s.workerTurn s.current

/-- At most `turns` turns. -/
def play : (turns : Nat) → Show → Show
  | 0, s => s
  | turns + 1, s =>
    match s.closing with
    | some _ => s
    | none => play turns s.turn

/-- Starts up to `count` workers; a full table is reported and ends the starting. -/
def startWorkers (s : Show) : (count : Nat) → Show
  | 0 => s
  | count + 1 =>
    match s.request (.spawn (some 0)) with
    | (some (.tid tid), s) => startWorkers { s with workers := s.workers ++ [tid] } count
    | (some (.refused .tableFull), s) =>
      s.write .warn "thread table full" [("spawned", .number s.workers.length)]
    | (some (.refused e), s) =>
      (s.write .error "spawn failed" [("err", .text e.message)]).close (.exit 1)
    | (_, s) => s

/-- Turns within which all workers are done: a round takes a worker at most four turns of the
main thread, with one turn of every thread in between. -/
def turnsNeeded (s : Show) : Nat := 4 * (s.rounds + 2) * (s.workers.length + 1)

/-- Makes room for the numbers of `count` workers, a word each. -/
def makeRoom (count : Nat) : Except Halt Unit :=
  let bytes := 8 * count
  if 0x8000000000000000 ≤ bytes then .error (.fault .capacityOverflow)
  else if mappingLimit ≤ bytes then .error (.abort (.allocationFailed bytes))
  else .ok ()

/-- Before anything has happened. -/
def opening (rounds : Nat) : Show :=
  ⟨{ Host.fresh with owner := some 0 }, rounds, [], .replicate maxThreads 0, [], none⟩

end Show

/-- The demonstration with given settings: how it ends and its lines, in order. -/
def present (quantum threads rounds stackKib : Nat) : Closing × List Line :=
  let s := Show.opening rounds
  let s := match Config.ofMicros quantum with
    | .error e =>
      (s.write .error "invalid configuration" [("err", .text e.message)]).close (.exit 1)
    | .ok config =>
      match (do config.withStackSize (← Checked.mul stackKib 1024)) with
      | .error h => s.close (.halted h)
      | .ok config =>
        let s := (s.request (.install config)).2
        match Show.makeRoom threads with
        | .error h => s.close (.halted h)
        | .ok () =>
          let s := s.startWorkers threads
          s.play s.turnsNeeded
  (s.closing.getD (.exit 0), s.lines.reverse)

end RoundRobin.Demo
