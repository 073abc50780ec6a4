import RoundRobin.Host.Basic

/-!
# Calls from OS threads

The process-wide entry points. The OS thread whose initialisation first succeeds owns the threads;
calls from any other OS thread are refused before they reach the scheduler. What a call needs
inside a critical section is a `Request`; `Host.examine` decides whether it comes to one.
-/

namespace RoundRobin

/-- A call, with threads named by `τ`. -/
inductive Call (τ : Type) where
  /-- Starts over with a quantum in microseconds and, if given, a stack size. -/
  | init (micros : Nat) (stackSize : Option Nat)
  | spawn (entry : Option Nat)
  | terminate (t : τ)
  | block (t : τ)
  | resume (t : τ)
  | sleep (quanta : Nat)
  | current
  | total
  | quantaOf (t : τ)
  | stateOf (t : τ)
  deriving DecidableEq, Repr

def Call.map {τ σ : Type} (f : τ → σ) : Call τ → Call σ
  | .init micros stackSize => .init micros stackSize
  | .spawn entry => .spawn entry
  | .terminate t => .terminate (f t)
  | .block t => .block (f t)
  | .resume t => .resume (f t)
  | .sleep quanta => .sleep quanta
  | .current => .current
  | .total => .total
  | .quantaOf t => .quantaOf (f t)
  | .stateOf t => .stateOf (f t)

/-- What a call comes to before any critical section is entered. -/
inductive Admission where
  | answer (a : Answer)
  | request (r : Request)
  deriving DecidableEq, Repr

namespace Host

variable {κ : Type}

/-- Why a call by `caller` is refused, if it is. -/
def refusal (h : Host κ) (caller : OsThread) : Option Error :=
  match h.owner, h.dispatcher with
  | none, _ => some .uninitialized
  | some owner, d =>
    if owner ≠ caller then some .foreignThread
    else if d.isNone then some .uninitialized
    else none

/-- The dispatcher as far as `caller` may see it. -/
def visible (h : Host κ) (caller : OsThread) : Option (Dispatcher κ) :=
  match h.refusal caller with
  | some _ => none
  | none => h.dispatcher

/-- The running thread; 0 for those who may not know. -/
def currentTid (h : Host κ) (caller : OsThread) : Tid :=
  (h.visible caller).elim 0 Dispatcher.shownTid

/-- The quantum counter; 0 for those who may not know. -/
def totalQuanta (h : Host κ) (caller : OsThread) : Nat :=
  (h.visible caller).elim 0 Dispatcher.shownTotal

/-- Settings from the arguments of an initialisation. -/
def settings (micros : Nat) (stackSize : Option Nat) : Except Halt (Except Error Config) :=
  match Config.ofMicros micros, stackSize with
  | .error e, _ => .ok (.error e)
  | .ok c, none => .ok (.ok c)
  | .ok c, some bytes => return .ok (← c.withStackSize bytes)

/-- Lets a request of the owner through. -/
def letThrough (h : Host κ) (caller : OsThread) (r : Request) : Admission × Host κ :=
  match h.refusal caller with
  | some e => (.answer (.refused e), h)
  | none => (.request r, h)

/-- Decides about a call: the quantum of an initialisation is looked at first, then who calls. The
first initialisation that gets so far makes its caller the owner. -/
def examine (h : Host κ) (caller : OsThread) : Call Tid → Except Halt (Admission × Host κ)
  | .init micros stackSize => do
    match ← settings micros stackSize with
    | .error e => return (.answer (.refused e), h)
    | .ok config =>
      match h.owner with
      | none => return (.request (.install config), { h with owner := some caller })
      | some owner =>
        if owner = caller then return (.request (.install config), h)
        else return (.answer (.refused .foreignThread), h)
  | .current => .ok (.answer (.tid (h.currentTid caller)), h)
  | .total => .ok (.answer (.number (h.totalQuanta caller)), h)
  | .spawn entry => .ok (h.letThrough caller (.spawn entry))
  | .terminate tid => .ok (h.letThrough caller (.terminate tid))
  | .block tid => .ok (h.letThrough caller (.block tid))
  | .resume tid => .ok (h.letThrough caller (.resume tid))
  | .sleep quanta => .ok (h.letThrough caller (.sleep quanta))
  | .quantaOf tid => .ok (h.letThrough caller (.quantaOf tid))
  | .stateOf tid => .ok (h.letThrough caller (.stateOf tid))

def enter (h : Host κ) : Guard × Host κ :=
  let (guard, signal) := h.signal.enter
  (guard, { h with signal })

def leave (h : Host κ) (guard : Guard) : Host κ := { h with signal := h.signal.leave guard }

/-- Carries out a request in a section of its own. The section is left when the call returns; one
that switches away leaves it only when its thread is back. -/
def carryOut (h : Host κ) (objections : Objections) (prime : Nat → Tid → Stack → Option κ)
    (r : Request) : Except Halt (Report κ) := do
  let (guard, h) := h.enter
  let report ← h.perform objections prime r
  match report.outcome with
  | .returns _ => return { report with host := report.host.leave guard }
  | _ => return report

/-- A whole call. -/
def call (h : Host κ) (objections : Objections) (prime : Nat → Tid → Stack → Option κ)
    (caller : OsThread) (c : Call Tid) : Except Halt (Report κ) := do
  match ← h.examine caller c with
  | (.answer a, h) => return ⟨.returns a, [], h⟩
  | (.request r, h) => h.carryOut objections prime r

end Host

end RoundRobin
