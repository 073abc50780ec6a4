import RoundRobin.Proofs.Pages
import Mathlib.Algebra.Group.Nat.Defs

/-!
# Stacks of whole pages

What is mapped for a stack is the least number of whole pages, one at least, that holds what was
asked for, with the guard below. In the last two pages below the end of the words that length is no
word, and nothing is asked for; in all other cases the answer is the system's.
-/

namespace RoundRobin.Stack

/-- Whether a mapping is asked for whose length, rounded to pages and with its guard, is no word. -/
def Oversized (usable : Nat) : Prop := 2 ^ 64 < usable + 2 * pageSize

def mappedLength (usable : Nat) : Nat :=
  max ((usable + (pageSize - 1)) / pageSize) 1 * pageSize + pageSize

variable {usable : Nat} {map : Nat → Except OsError Nat} {stack : Stack}

theorem mappedLength_eq (usable : Nat) :
    ∃ least, IsLeast (wholePages usable pageSize) least ∧
      mappedLength usable = least + pageSize := by
  refine ⟨_, wholePages_least usable pageSize_pos, ?_⟩
  rw [mappedLength, Nat.add_sub_assoc pageSize_pos]

theorem le_mappedLength (usable : Nat) : usable ≤ mappedLength usable := by
  obtain ⟨least, whole, length⟩ := mappedLength_eq usable
  rw [length]
  exact Nat.le_trans whole.1.2.2 (Nat.le_add_right ..)

/-- The length of a mapping is a word unless the size is in the last two pages, and so is what lies
above the guard unless the size is in the last one. -/
theorem inWord_iff {least : Nat} (whole : IsLeast (wholePages usable pageSize) least) :
    (least ≤ wordMax ↔ usable + pageSize ≤ 2 ^ 64) ∧
      (least + pageSize ≤ wordMax ↔ ¬ Oversized usable) := by
  rw [whole.unique (wholePages_least usable pageSize_pos)]
  simp only [Oversized, pageSize, wordMax]
  omega

/-- A length that is a word is asked for, and the answer passed on. -/
theorem request_eq (fits : ¬ Oversized usable) (map : Nat → Except OsError Nat) :
    request map usable =
      .ok ((map (mappedLength usable)).map fun base => ⟨base, mappedLength usable⟩) := by
  obtain ⟨least, whole, length⟩ := mappedLength_eq usable
  have inWord : least + pageSize ≤ wordMax := (inWord_iff whole).2.mpr fits
  have rounded : least ≤ wordMax := Nat.le_trans (Nat.le_add_right least pageSize) inWord
  rw [request, roundToPages_eq pageSize_pos whole, if_pos rounded, ok_bind,
    Checked.add_eq_ok inWord, ok_bind, length]
  split <;> next answered => simp [answered, Except.map]

/-- The last page cannot be rounded up, and the one before has no room for the guard. -/
theorem request_fault (large : Oversized usable) (map : Nat → Except OsError Nat) :
    request map usable =
      .error (.fault (if usable + pageSize ≤ 2 ^ 64 then .addOverflow else .mulOverflow)) := by
  obtain ⟨least, whole, _⟩ := mappedLength_eq usable
  obtain ⟨rounds, fits⟩ := inWord_iff whole
  have beyond : wordMax < least + pageSize := Nat.lt_of_not_le fun le => fits.mp le large
  rw [request, roundToPages_eq pageSize_pos whole]
  by_cases last : least ≤ wordMax
  · rw [if_pos last, ok_bind, Checked.add_overflow beyond, if_pos (rounds.mp last)]
    rfl
  · rw [if_neg last, if_neg fun le => last (rounds.mpr le)]
    rfl

/-- For a length that is no word nothing is asked for. -/
theorem request_oversized (large : Oversized usable) (map : Nat → Except OsError Nat) :
    ∃ f, request map usable = .error (.fault f) :=
  ⟨_, request_fault large map⟩

theorem request_cases (map : Nat → Except OsError Nat) (usable : Nat) :
    (∃ answer, request map usable = .ok answer) ∨
      ∃ f, request map usable = .error (.fault f) ∧ Oversized usable := by
  by_cases large : Oversized usable
  · obtain ⟨f, fault⟩ := request_oversized large map
    exact .inr ⟨f, fault, large⟩
  · exact .inl ⟨_, request_eq large map⟩

/-- If the mapping has a length, the system is asked. -/
theorem request_of_fits (fits : ¬ Oversized usable) (map : Nat → Except OsError Nat) :
    (∃ reason, map (mappedLength usable) = .error reason) ∨
      ∃ stack, request map usable = .ok (.ok stack) := by
  rw [request_eq fits]
  cases map (mappedLength usable) with
  | error reason => exact .inl ⟨reason, rfl⟩
  | ok base => exact .inr ⟨_, rfl⟩

/-- Whoever gets a stack was given a mapping of the length that was asked for. -/
theorem request_inv (requested : request map usable = .ok (.ok stack)) :
    map (mappedLength usable) = .ok stack.base ∧ stack.mapped = mappedLength usable := by
  by_cases large : Oversized usable
  · obtain ⟨f, fault⟩ := request_oversized large map
    simp [fault] at requested
  · rw [request_eq large, Except.ok.injEq] at requested
    cases mapped : map (mappedLength usable) with
    | error reason => simp [mapped, Except.map] at requested
    | ok base =>
      rw [mapped] at requested
      obtain rfl := Except.ok.inj requested
      exact ⟨rfl, rfl⟩

/-- What lies above the guard is the least that holds what was asked for. -/
theorem usable_least (requested : request map usable = .ok (.ok stack)) :
    IsLeast (wholePages usable pageSize) stack.usable := by
  obtain ⟨least, whole, length⟩ := mappedLength_eq usable
  rwa [Stack.usable, (request_inv requested).2, length, Nat.add_sub_cancel]

/-- However little was asked for, there is a page above the guard. -/
theorem page_le_usable (requested : request map usable = .ok (.ok stack)) :
    pageSize ≤ stack.usable := by
  have least := usable_least requested
  exact Nat.le_of_dvd least.1.1 least.1.2.1

theorem top_sub_bottom (stack : Stack) : stack.top - stack.bottom = stack.usable :=
  Nat.add_sub_add_left ..

theorem bottom_add_page_le_top (requested : request map usable = .ok (.ok stack)) :
    stack.bottom + pageSize ≤ stack.top := by
  have page := page_le_usable requested
  have span := stack.top_sub_bottom
  have positive := pageSize_pos
  omega

end RoundRobin.Stack
