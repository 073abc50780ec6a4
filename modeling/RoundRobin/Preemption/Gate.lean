/-!
# The preemption mask

One bit says whether preemption is held off. A critical section sets it and remembers what it was;
leaving the section puts that value back, whatever happened in between. Sections left in the
reverse order of entry therefore nest.
-/

namespace RoundRobin

/-- The preemption mask. -/
structure Gate where
  masked : Bool
  deriving DecidableEq, Repr

/-- A critical section that has been entered, with the mask it found. -/
structure Guard where
  saved : Bool
  deriving DecidableEq, Repr

/-- Whether the section was entered with preemption already held off. -/
def Guard.isNested (g : Guard) : Bool := g.saved

namespace Gate

def enter (g : Gate) : Guard × Gate := (⟨g.masked⟩, ⟨true⟩)

def leave (_ : Gate) (guard : Guard) : Gate := ⟨guard.saved⟩

/-- Lets preemption through, whatever sections are held. -/
def unmask (_ : Gate) : Gate := ⟨false⟩

/-- Runs `f` inside a section of its own. -/
def within {α : Type} (g : Gate) (f : Gate → α × Gate) : α × Gate :=
  let (guard, inside) := g.enter
  let (a, inside) := f inside
  (a, inside.leave guard)

end Gate

end RoundRobin
