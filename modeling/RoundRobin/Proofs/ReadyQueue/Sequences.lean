import RoundRobin.Proofs.ReadyQueue

/-!
# Sequences of queue operations

The operations of a ready queue as data, once on the ring and once on a list of bounded length. The
ring gives the list's answers along every sequence and never leaves the domain of its arithmetic,
whatever was queued, how often, and wherever the front has moved to.
-/

namespace RoundRobin.ReadyQueue

inductive Op where
  | push (tid : Tid)
  | pop
  | remove (tid : Tid)
  | contains (tid : Tid)
  | reset
  | len
  | isEmpty
  | entries
  deriving DecidableEq, Repr

inductive Answer where
  | done
  | full
  | front (tid : Option Tid)
  | truth (b : Bool)
  | number (n : Nat)
  | listing (tids : List Tid)
  deriving DecidableEq, Repr

def apply (q : ReadyQueue) : Op → Except Halt (Answer × ReadyQueue)
  | .push tid => do
    match ← q.push tid with
    | some pushed => return (.done, pushed)
    | none => return (.full, q)
  | .pop => do
    match ← q.pop with
    | some (tid, rest) => return (.front (some tid), rest)
    | none => return (.front none, q)
  | .remove tid => do
    let (found, rest) ← q.remove tid
    return (.truth found, rest)
  | .contains tid => do return (.truth (← q.contains tid), q)
  | .reset => .ok (.done, q.reset)
  | .len => .ok (.number q.len, q)
  | .isEmpty => .ok (.truth q.isEmpty, q)
  | .entries => do return (.listing (← q.entries), q)

def perform (q : ReadyQueue) : List Op → Except Halt (List Answer × ReadyQueue)
  | [] => .ok ([], q)
  | op :: ops => do
    let (answer, q) ← q.apply op
    let (answers, q) ← q.perform ops
    return (answer :: answers, q)

/-- One operation on a list that holds at most `capacity` entries. -/
def Op.onList (capacity : Nat) (xs : List Tid) : Op → Answer × List Tid
  | .push tid => if xs.length = capacity then (.full, xs) else (.done, xs ++ [tid])
  | .pop => (.front xs.head?, xs.tail)
  | .remove tid => (.truth (xs.contains tid), xs.erase tid)
  | .contains tid => (.truth (xs.contains tid), xs)
  | .reset => (.done, [])
  | .len => (.number xs.length, xs)
  | .isEmpty => (.truth xs.isEmpty, xs)
  | .entries => (.listing xs, xs)

def onList (capacity : Nat) (xs : List Tid) : List Op → List Answer × List Tid
  | [] => ([], xs)
  | op :: ops =>
    let first := op.onList capacity xs
    let rest := onList capacity first.2 ops
    (first.1 :: rest.1, rest.2)

variable {q : ReadyQueue} {capacity : Nat} {xs : List Tid}

theorem Holds.isEmpty_eq (h : q.Holds capacity xs) : q.isEmpty = xs.isEmpty := by
  rw [ReadyQueue.isEmpty, h.len_eq]
  cases xs with
  | nil => rfl
  | cons tid rest => rfl

/-- A single operation answers on the ring as on the list that it holds. -/
theorem Holds.apply_eq (h : q.Holds capacity xs) (op : Op) :
    ∃ q', q.apply op = .ok ((op.onList capacity xs).1, q') ∧
      q'.Holds capacity (op.onList capacity xs).2 := by
  cases op with
  | push tid =>
    by_cases full : xs.length = capacity
    · refine ⟨q, ?_, ?_⟩
      · simp [apply, Op.onList, h.push_full full, full]
      · simpa [Op.onList, full] using h
    · have fits := h.fits
      obtain ⟨q', pushed, held⟩ := h.push_eq (show xs.length < capacity by omega) tid
      refine ⟨q', ?_, ?_⟩
      · simp [apply, Op.onList, pushed, full]
      · simpa [Op.onList, full] using held
  | pop =>
    cases xs with
    | nil => exact ⟨q, by simp [apply, Op.onList, h.pop_nil], h⟩
    | cons tid rest =>
      obtain ⟨q', popped, held⟩ := h.pop_cons
      exact ⟨q', by simp [apply, Op.onList, popped], held⟩
  | remove tid =>
    obtain ⟨q', removed, held⟩ := h.remove_eq tid
    exact ⟨q', by simp [apply, Op.onList, removed], held⟩
  | contains tid => exact ⟨q, by simp [apply, Op.onList, h.contains_eq], h⟩
  | reset => exact ⟨q.reset, rfl, h.reset⟩
  | len => exact ⟨q, by simp [apply, Op.onList, h.len_eq], h⟩
  | isEmpty => exact ⟨q, by simp [apply, Op.onList, h.isEmpty_eq], h⟩
  | entries => exact ⟨q, by simp [apply, Op.onList, h.entries_eq], h⟩

theorem Holds.perform_eq (h : q.Holds capacity xs) (ops : List Op) :
    ∃ q', q.perform ops = .ok ((onList capacity xs ops).1, q') ∧
      q'.Holds capacity (onList capacity xs ops).2 := by
  induction ops generalizing q xs with
  | nil => exact ⟨q, rfl, h⟩
  | cons op ops ih =>
    obtain ⟨q₁, applied, held₁⟩ := h.apply_eq op
    obtain ⟨q₂, performed, held₂⟩ := ih held₁
    exact ⟨q₂, by simp [perform, onList, applied, performed], held₂⟩

/-- Along every sequence of operations, duplicates and overflowing pushes included, a ring that was
empty at first answers as a list of at most `capacity` entries: it is never stopped by a fault, and
what it lists afterwards is that list. -/
theorem answers_as_bounded_list (capacity : Nat) (small : capacity < 2 ^ 60) (ops : List Op) :
    ∃ q, (empty capacity).perform ops = .ok ((onList capacity [] ops).1, q) ∧
      q.capacity = capacity ∧ q.entries = .ok (onList capacity [] ops).2 ∧
      q.toList = (onList capacity [] ops).2 ∧ q.len = (onList capacity [] ops).2.length ∧
      q.len ≤ capacity := by
  obtain ⟨q, performed, held⟩ := (empty_holds small).perform_eq ops
  have fits := held.fits
  rw [← held.len_eq] at fits
  exact ⟨q, performed, held.size, held.entries_eq, held.toList_eq, held.len_eq, fits⟩

/-- A full ring whose front has moved on loses the first of two equal entries from its middle, and
a ring without slots refuses whatever is pushed. -/
theorem answers_as_bounded_list_wrapped :
    3 < 2 ^ 60 ∧
    (∃ q, (empty 3).perform
        [.push 1, .push 2, .pop, .push 5, .push 2, .push 7, .entries, .remove 2, .entries,
          .remove 9] =
          .ok ([.done, .done, .front (some 1), .done, .done, .full, .listing [2, 5, 2], .truth true,
            .listing [5, 2], .truth false], q) ∧ q.toList = [5, 2]) ∧
    ∃ q, (empty 0).perform [.push 4, .pop, .remove 4, .contains 4, .reset, .len, .isEmpty] =
      .ok ([.full, .front none, .truth false, .truth false, .done, .number 0, .truth true], q) := by
  obtain ⟨q, performed, _, _, listed, _⟩ := answers_as_bounded_list 3 (by decide)
    [.push 1, .push 2, .pop, .push 5, .push 2, .push 7, .entries, .remove 2, .entries, .remove 9]
  obtain ⟨q₀, performed₀, _⟩ := answers_as_bounded_list 0 (by decide)
    [.push 4, .pop, .remove 4, .contains 4, .reset, .len, .isEmpty]
  exact ⟨by decide, ⟨q, performed, listed⟩, q₀, performed₀⟩

end RoundRobin.ReadyQueue
