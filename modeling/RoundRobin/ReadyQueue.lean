import RoundRobin.Checked
import RoundRobin.Error

/-!
# The ready queue

Runnable threads wait in a ring of fixed capacity. The entry `step` places behind the front stands
at `(head + step) % capacity`. Removing an entry from the middle moves every later one a place
forward, in place. `toList` is the queue as a caller sees it, front first; the operations
themselves compute every index with checked arithmetic.
-/

namespace RoundRobin

/-- A ring of thread numbers; its capacity is the number of slots. -/
structure ReadyQueue where
  slots : List Tid
  head : Nat
  len : Nat
  deriving DecidableEq, Repr

namespace ReadyQueue

def empty (capacity : Nat) : ReadyQueue := ⟨List.replicate capacity 0, 0, 0⟩

def capacity (q : ReadyQueue) : Nat := q.slots.length

def isEmpty (q : ReadyQueue) : Bool := q.len == 0

/-- The queued threads, front first. -/
def toList (q : ReadyQueue) : List Tid :=
  (List.range q.len).map fun step => q.slots.getD ((q.head + step) % q.slots.length) 0

/-- Place in the ring of the entry `step` places behind the front. -/
def index (q : ReadyQueue) (step : Nat) : Except Halt Nat := do
  Checked.rem (← Checked.add q.head step) q.capacity

/-- The entry `step` places behind the front. -/
def entry (q : ReadyQueue) (step : Nat) : Except Halt Tid := do
  Checked.get q.slots (← q.index step)

/-- All entries, front first, each read from its slot. -/
def entries (q : ReadyQueue) : Except Halt (List Tid) :=
  (List.range q.len).mapM q.entry

/-- Adds `tid` at the back; a full queue gives `none`. -/
def push (q : ReadyQueue) (tid : Tid) : Except Halt (Option ReadyQueue) :=
  if q.len = q.capacity then .ok none
  else do
    let slots ← Checked.set q.slots (← q.index q.len) tid
    let len ← Checked.add q.len 1
    return some { q with slots, len }

/-- Takes the front entry; an empty queue gives `none`. -/
def pop (q : ReadyQueue) : Except Halt (Option (Tid × ReadyQueue)) :=
  if q.len = 0 then .ok none
  else do
    let tid ← Checked.get q.slots q.head
    let head ← q.index 1
    let len ← Checked.sub q.len 1
    return some (tid, { q with head, len })

/-- Moves `count` entries a place forward, the first of them into place `step`. -/
def closeGap (q : ReadyQueue) : (count step : Nat) → Except Halt ReadyQueue
  | 0, _ => .ok q
  | count + 1, step => do
    let target ← q.index step
    let tid ← q.entry (step + 1)
    let slots ← Checked.set q.slots target tid
    closeGap { q with slots } count (step + 1)

/-- Removes the first occurrence of `tid` and tells whether there was one. -/
def remove (q : ReadyQueue) (tid : Tid) : Except Halt (Bool × ReadyQueue) := do
  match (← q.entries).idxOf? tid with
  | none => return (false, q)
  | some place =>
    let q ← q.closeGap (q.len - (place + 1)) place
    let len ← Checked.sub q.len 1
    return (true, { q with len })

def contains (q : ReadyQueue) (tid : Tid) : Except Halt Bool :=
  return (← q.entries).contains tid

def reset (q : ReadyQueue) : ReadyQueue := { q with head := 0, len := 0 }

end ReadyQueue

end RoundRobin
