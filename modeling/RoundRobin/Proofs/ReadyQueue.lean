import RoundRobin.ReadyQueue
import RoundRobin.Proofs.Checked
import Mathlib.Data.Nat.ModEq

/-!
# The ring is a list

`Holds` relates a ring to the list of its entries. Each operation on a ring that holds a list
answers as the list would: `push` appends, `pop` takes the front, `remove` erases the first
occurrence, and no index, sum or difference leaves its domain on the way.
-/

namespace RoundRobin.ReadyQueue

/-- The ring `q` has `capacity` slots and its entries, front first, are `xs`. A ring of words fills
at most half of the address space, which bounds its capacity. -/
structure Holds (q : ReadyQueue) (capacity : Nat) (xs : List Tid) : Prop where
  size : q.slots.length = capacity
  bounded : capacity < 2 ^ 60
  head_lt : 0 < capacity → q.head < capacity
  len_eq : q.len = xs.length
  fits : xs.length ≤ capacity
  place : ∀ i, i < xs.length → q.slots[(q.head + i) % capacity]? = xs[i]?

theorem place_ne {capacity i j : Nat} (head : Nat) (hi : i < capacity) (hj : j < capacity)
    (ne : i ≠ j) : (head + i) % capacity ≠ (head + j) % capacity := by
  intro same
  have cancelled : i % capacity = j % capacity := Nat.ModEq.add_left_cancel' head same
  rw [Nat.mod_eq_of_lt hi, Nat.mod_eq_of_lt hj] at cancelled
  exact ne cancelled

theorem place_succ (head capacity i : Nat) :
    ((head + 1) % capacity + i) % capacity = (head + (i + 1)) % capacity := by
  rw [Nat.mod_add_mod, Nat.add_assoc, Nat.add_comm 1 i]

variable {q : ReadyQueue} {capacity : Nat} {xs : List Tid}

theorem empty_holds (small : capacity < 2 ^ 60) : (empty capacity).Holds capacity [] where
  size := List.length_replicate
  bounded := small
  head_lt := fun pos => pos
  len_eq := rfl
  fits := Nat.zero_le capacity
  place := fun _ hi => absurd hi (Nat.not_lt_zero _)

namespace Holds

theorem reset (h : q.Holds capacity xs) : q.reset.Holds capacity [] where
  size := h.size
  bounded := h.bounded
  head_lt := fun pos => pos
  len_eq := rfl
  fits := Nat.zero_le capacity
  place := fun _ hi => absurd hi (Nat.not_lt_zero _)

theorem index_eq (h : q.Holds capacity xs) (pos : 0 < capacity) {step : Nat}
    (hs : step ≤ capacity) : q.index step = .ok ((q.head + step) % capacity) := by
  have inWord : q.head + step ≤ wordMax := by
    have := h.head_lt pos
    have := h.bounded
    unfold wordMax
    omega
  have slots : 0 < q.capacity := by
    rw [ReadyQueue.capacity, h.size]
    exact pos
  rw [index, Checked.add_eq_ok inWord, ok_bind, Checked.rem_eq_ok slots, ReadyQueue.capacity,
    h.size]

theorem entry_eq (h : q.Holds capacity xs) {step : Nat} (hs : step < xs.length) :
    q.entry step = .ok xs[step] := by
  have fits := h.fits
  rw [entry, h.index_eq (by omega) (by omega), ok_bind]
  exact Checked.get_eq_ok ((h.place step hs).trans (List.getElem?_eq_getElem hs))

theorem toList_eq (h : q.Holds capacity xs) : q.toList = xs := by
  apply List.ext_getElem
  · simp [toList, h.len_eq]
  · intro i _ hi
    simp [toList, h.size, List.getD_eq_getElem?_getD, h.place i hi, hi]

theorem entries_eq (h : q.Holds capacity xs) : q.entries = .ok xs := by
  have each : ∀ step ∈ List.range q.len,
      q.entry step = .ok (q.slots.getD ((q.head + step) % q.slots.length) 0) := by
    intro step hs
    have hs : step < xs.length := h.len_eq ▸ List.mem_range.mp hs
    rw [h.entry_eq hs, List.getD_eq_getElem?_getD, h.size, h.place step hs,
      List.getElem?_eq_getElem hs, Option.getD_some]
  rw [entries, mapM_eq_ok each]
  exact congrArg Except.ok h.toList_eq

theorem contains_eq (h : q.Holds capacity xs) (tid : Tid) :
    q.contains tid = .ok (xs.contains tid) := by
  rw [ReadyQueue.contains, h.entries_eq, ok_bind, pure_eq_ok]

/-- Overwriting a slot in use overwrites the entry that stands there and no other. -/
theorem set_slot (h : q.Holds capacity xs) {i : Nat} (hi : i < xs.length) (tid : Tid) :
    ({ q with slots := q.slots.set ((q.head + i) % capacity) tid } : ReadyQueue).Holds capacity
      (xs.set i tid) := by
  have fits := h.fits
  refine ⟨by simp [h.size], h.bounded, h.head_lt, by simp [h.len_eq], by simp [fits], ?_⟩
  intro j hj
  rw [List.length_set] at hj
  by_cases same : i = j
  · subst j
    have inRing : (q.head + i) % capacity < q.slots.length := by
      rw [h.size]
      exact Nat.mod_lt _ (by omega)
    simp [inRing, hi]
  · have apart := place_ne q.head (show i < capacity by omega) (show j < capacity by omega) same
    simp [apart, same, h.place j hj]

theorem push_full (h : q.Holds capacity xs) (full : xs.length = capacity) (tid : Tid) :
    q.push tid = .ok none := by
  have reached : q.len = q.capacity := by rw [h.len_eq, full, ReadyQueue.capacity, h.size]
  rw [push, if_pos reached]

theorem push_eq (h : q.Holds capacity xs) (room : xs.length < capacity) (tid : Tid) :
    ∃ q', q.push tid = .ok (some q') ∧ q'.Holds capacity (xs ++ [tid]) := by
  have bounded := h.bounded
  have inRing : (q.head + xs.length) % capacity < q.slots.length := by
    rw [h.size]
    exact Nat.mod_lt _ (by omega)
  have free : ¬ q.len = q.capacity := by
    rw [h.len_eq, ReadyQueue.capacity, h.size]
    omega
  have grown : Checked.add q.len 1 = .ok (xs.length + 1) := by
    rw [h.len_eq]
    exact Checked.add_eq_ok (by unfold wordMax; omega)
  refine ⟨{ q with
    slots := q.slots.set ((q.head + xs.length) % capacity) tid, len := xs.length + 1 }, ?_, ?_⟩
  · rw [push, if_neg free, h.len_eq, h.index_eq (by omega) (by omega), ok_bind,
      Checked.set_eq_ok inRing, ok_bind, ← h.len_eq, grown, ok_bind, h.len_eq, pure_eq_ok]
  · refine ⟨by simp [h.size], bounded, h.head_lt, by simp, by simp; omega, ?_⟩
    intro i hi
    by_cases last : i = xs.length
    · subst i
      simp [inRing]
    · have hi : i < xs.length := by simp at hi; omega
      have apart := place_ne q.head (show i < capacity by omega) room (by omega)
      simp [Ne.symm apart, h.place i hi, List.getElem?_append_left hi]

theorem pop_nil (h : q.Holds capacity []) : q.pop = .ok none := by
  have nothing : q.len = 0 := h.len_eq
  rw [pop, if_pos nothing]

theorem pop_cons {tid : Tid} (h : q.Holds capacity (tid :: xs)) :
    ∃ q', q.pop = .ok (some (tid, q')) ∧ q'.Holds capacity xs := by
  have fits : xs.length + 1 ≤ capacity := h.fits
  have head_lt := h.head_lt (by omega)
  have front : q.slots[q.head]? = some tid := by
    simpa [Nat.mod_eq_of_lt head_lt] using h.place 0 (by simp)
  have some_left : ¬ q.len = 0 := by simp [h.len_eq]
  have shrunk : Checked.sub q.len 1 = .ok xs.length := by
    rw [h.len_eq]
    exact Checked.sub_eq_ok (by simp)
  refine ⟨{ q with head := (q.head + 1) % capacity, len := xs.length }, ?_, ?_⟩
  · rw [pop, if_neg some_left, Checked.get_eq_ok front, ok_bind,
      h.index_eq (by omega) (by omega), ok_bind, shrunk, ok_bind, pure_eq_ok]
  · refine ⟨h.size, h.bounded, fun pos => Nat.mod_lt _ pos, rfl, by omega, ?_⟩
    intro i hi
    rw [place_succ, h.place (i + 1) (by simp; omega), List.getElem?_cons_succ]

end Holds

/-- Copying the next entry forward and erasing it there is the same as erasing here. -/
theorem eraseIdx_set_next {i : Nat} (hi : i + 1 < xs.length) :
    (xs.set i xs[i + 1]).eraseIdx (i + 1) = xs.eraseIdx i := by
  apply List.ext_getElem?
  intro j
  by_cases before : j < i
  · simp [List.getElem?_eraseIdx, show j < i + 1 by omega, before, show i ≠ j by omega]
  · by_cases here : j = i
    · subst j
      simp [List.getElem?_eraseIdx, hi, show i < xs.length by omega]
    · simp [List.getElem?_eraseIdx, show ¬ j < i + 1 by omega, before, show i ≠ j + 1 by omega]

namespace Holds

/-- The loop that closes a gap, once the length is taken back by one, has erased the entry where
it began. -/
theorem closeGap_eq {count step : Nat} (h : q.Holds capacity xs)
    (rest : step + count + 1 = xs.length) :
    ∃ q', q.closeGap count step = .ok q' ∧ q'.len = q.len ∧
      ({ q' with len := xs.length - 1 } : ReadyQueue).Holds capacity (xs.eraseIdx step) := by
  have fits := h.fits
  induction count generalizing q xs step with
  | zero =>
    have last : (xs.eraseIdx step).length = xs.length - 1 := by
      rw [List.length_eraseIdx_of_lt (by omega)]
    refine ⟨q, rfl, rfl, h.size, h.bounded, h.head_lt, last.symm, by omega, ?_⟩
    intro i hi
    rw [List.getElem?_eraseIdx_of_lt (show i < step by omega)]
    exact h.place i (by omega)
  | succ count ih =>
    have next := h.entry_eq (show step + 1 < xs.length by omega)
    have inRing : (q.head + step) % capacity < q.slots.length := by
      rw [h.size]
      exact Nat.mod_lt _ (by omega)
    have moved := h.set_slot (show step < xs.length by omega) xs[step + 1]
    have rest : step + 1 + count + 1 = (xs.set step xs[step + 1]).length := by
      rw [List.length_set]
      omega
    obtain ⟨q', closed, len, held⟩ := ih moved rest (by simpa using fits)
    rw [eraseIdx_set_next (by omega), List.length_set] at held
    refine ⟨q', ?_, len, held⟩
    rw [closeGap, h.index_eq (by omega) (by omega), ok_bind, next, ok_bind,
      Checked.set_eq_ok inRing, ok_bind]
    exact closed

theorem remove_eq (h : q.Holds capacity xs) (tid : Tid) :
    ∃ q', q.remove tid = .ok (xs.contains tid, q') ∧ q'.Holds capacity (xs.erase tid) := by
  rw [remove, h.entries_eq, ok_bind]
  cases found : xs.idxOf? tid with
  | none =>
    have absent : tid ∉ xs := List.idxOf?_eq_none_iff.mp found
    refine ⟨q, ?_, ?_⟩
    · simp [absent]
    · rwa [List.erase_of_not_mem absent]
  | some place =>
    obtain ⟨inside, here, _⟩ := List.idxOf?_eq_some_iff.mp found
    have member : tid ∈ xs := here ▸ List.getElem_mem inside
    have count : place + (q.len - (place + 1)) + 1 = xs.length := by
      rw [h.len_eq]
      omega
    obtain ⟨q', closed, len, held⟩ := h.closeGap_eq count
    have shrunk : Checked.sub q'.len 1 = .ok (xs.length - 1) := by
      rw [len, h.len_eq]
      exact Checked.sub_eq_ok (by omega)
    refine ⟨{ q' with len := xs.length - 1 }, ?_, ?_⟩
    · simp [closed, shrunk, member]
    · rwa [List.erase_eq_eraseIdx, found]

end Holds

end RoundRobin.ReadyQueue
