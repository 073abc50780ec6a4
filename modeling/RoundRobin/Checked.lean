import RoundRobin.Halt

/-!
# Checked arithmetic on 64-bit words

Counters, sizes and indices are natural numbers that fit in a 64-bit word. An operation whose
result does not fit is a fault; nothing wraps silently.
-/

namespace RoundRobin

/-- The largest 64-bit word. -/
def wordMax : Nat := 0xFFFFFFFFFFFFFFFF

/-- Addition that stops at the largest word. -/
def addSaturating (a b : Nat) : Nat := min (a + b) wordMax

namespace Checked

def add (a b : Nat) : Except Halt Nat :=
  if a + b ≤ wordMax then .ok (a + b) else .error (.fault .addOverflow)

def sub (a b : Nat) : Except Halt Nat :=
  if b ≤ a then .ok (a - b) else .error (.fault .subOverflow)

def mul (a b : Nat) : Except Halt Nat :=
  if a * b ≤ wordMax then .ok (a * b) else .error (.fault .mulOverflow)

/-- Quotient rounded up. -/
def divCeil (a b : Nat) : Except Halt Nat :=
  if b = 0 then .error (.fault .divideByZero) else .ok ((a + b - 1) / b)

def rem (a b : Nat) : Except Halt Nat :=
  if b = 0 then .error (.fault .remainderByZero) else .ok (a % b)

universe u
variable {α : Type u}

def get (xs : List α) (i : Nat) : Except Halt α :=
  match xs[i]? with
  | some x => .ok x
  | none => .error (.fault (.indexOutOfRange xs.length i))

def set (xs : List α) (i : Nat) (x : α) : Except Halt (List α) :=
  if i < xs.length then .ok (xs.set i x)
  else .error (.fault (.indexOutOfRange xs.length i))

end Checked

end RoundRobin
