import RoundRobin.Checked
import RoundRobin.Error

/-!
# Stacks

A stack is a mapping of whole pages whose lowest page is a guard: it can be neither read nor
written. The usable part lies above the guard and is used from the top downwards. The operating
system decides whether and where a mapping is made; its answer is a parameter here.
-/

namespace RoundRobin

/-- Bytes in a page of memory. -/
def pageSize : Nat := 4096

/-- The least positive multiple of `page` that is not below `bytes`, if it fits in a word. -/
def roundToPages (bytes page : Nat) : Except Halt Nat := do
  Checked.mul (max (← Checked.divCeil bytes page) 1) page

/-- A mapping from `base` of `mapped` bytes, guard page included. -/
structure Stack where
  base : Nat
  mapped : Nat
  deriving DecidableEq, Repr

namespace Stack

/-- Exclusive upper end. -/
def top (s : Stack) : Nat := s.base + s.mapped

/-- Lowest usable address, just above the guard page. -/
def bottom (s : Stack) : Nat := s.base + pageSize

def usable (s : Stack) : Nat := s.mapped - pageSize

def contains (s : Stack) (address : Nat) : Bool :=
  s.bottom ≤ address && address < s.top

/-- Asks `map` for a stack with at least `usable` bytes above its guard. `map` gives the address of
a mapping of the requested length, or the reason why there is none. -/
def request (map : Nat → Except OsError Nat) (usable : Nat) :
    Except Halt (Except OsError Stack) := do
  let mapped ← Checked.add (← roundToPages usable pageSize) pageSize
  match map mapped with
  | .error reason => return .error reason
  | .ok base => return .ok ⟨base, mapped⟩

end Stack

/-- Length from which no mapping fits into the user half of the address space. -/
def mappingLimit : Nat := 0x800000000000

/-- What a system has against a mapping, by its length. -/
abbrev Objections := Nat → Option OsError

/-- The objections of a system with room for whatever fits into its address space. -/
def Objections.few : Objections := fun length =>
  if mappingLimit ≤ length then some .outOfMemory else none

/-- Maps at `base` what the system does not object to. -/
def mapUnless (objections : Objections) (base length : Nat) : Except OsError Nat :=
  match objections length with
  | some reason => .error reason
  | none => .ok base

/-- A system that maps at `base` whatever fits into its address space. -/
def mapAt (base : Nat) : Nat → Except OsError Nat := mapUnless .few base

end RoundRobin
