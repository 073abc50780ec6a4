import RoundRobin.Proofs.Scheduler.Decision
import Mathlib.Data.List.Perm.Basic

/-!
# What the check says

The check compares table and queue in five respects. `Passes` puts them as statements about single
threads. In every state whose numbers are in order the check comes to a verdict, and the verdict is
`Passes`. Deadlines, entries and turns are not looked at, nor how often a number is queued.
-/

namespace RoundRobin.Scheduler

variable {κ : Type}

/-- What the check looks for: the current thread and nobody else runs, the ready threads and nobody
else are queued, live spawned threads and nobody else own stacks, the main thread is awake. -/
structure Passes (s : Scheduler κ) : Prop where
  running_iff : ∀ i, s.state? i = some .running ↔ i = s.current
  queued_iff : ∀ i, i ∈ s.ready.toList ↔ s.state? i = some .ready
  stack_iff : ∀ (i : Tid) (t : Thread κ), s.threads[i]? = some t → 1 ≤ i →
    (t.stack.isSome ↔ t.state ≠ .unused)
  awake : ∀ main, s.threads[0]? = some main → ¬ main.state.isSleeping

/-- One element satisfies `p`, namely the one in place `c`. -/
theorem countP_eq_one_iff {α : Type} {p : α → Bool} {xs : List α} {c : Nat} {x : α}
    (at_c : xs[c]? = some x) :
    xs.countP p = 1 ∧ p x = true ↔ ∀ (i : Nat) (y : α), xs[i]? = some y → (p y = true ↔ i = c) := by
  obtain ⟨inside, rfl⟩ := List.getElem?_eq_some_iff.mp at_c
  have count : xs.countP p = (xs[c] :: xs.eraseIdx c).countP p :=
    ((List.getElem_cons_eraseIdx_perm inside).countP_eq p).symm
  rw [count]
  constructor
  · rintro ⟨once, here⟩ i y at_i
    rw [List.countP_cons_of_pos here] at once
    have others : (xs.eraseIdx c).countP p = 0 := by omega
    constructor
    · intro holds
      by_contra other
      exact List.countP_eq_zero.mp others y
        (List.mem_eraseIdx_iff_getElem?.mpr ⟨i, other, at_i⟩) holds
    · rintro rfl
      exact Option.some.inj (at_c.symm.trans at_i) ▸ here
  · intro each
    have here := (each c _ at_c).mpr rfl
    have others : (xs.eraseIdx c).countP p = 0 := by
      rw [List.countP_eq_zero]
      intro y mem holds
      obtain ⟨i, other, at_i⟩ := List.mem_eraseIdx_iff_getElem?.mp mem
      exact other ((each i y at_i).mp holds)
    exact ⟨by rw [List.countP_cons_of_pos here, others], here⟩

variable {s : Scheduler κ}

/-- In a table that is numbered in order, the slots are compared with the queue one by one. -/
theorem Formed.queue_agrees (formed : s.Formed) :
    (∀ t ∈ s.threads, (s.ready.toList.contains t.tid == (t.state == .ready)) = true) ↔
      ∀ i, i ∈ s.ready.toList ↔ s.state? i = some .ready := by
  have slot_agrees : ∀ {i : Tid} {t : Thread κ}, s.threads[i]? = some t →
      ((s.ready.toList.contains t.tid == (t.state == .ready)) = true ↔
        (i ∈ s.ready.toList ↔ s.state? i = some .ready)) := by
    intro i t slot
    rw [formed.numbered i t slot, beq_iff_eq, Bool.eq_iff_iff]
    simp [state?, slot]
  constructor
  · intro each i
    by_cases inside : i < s.threads.length
    · have slot := List.getElem?_eq_getElem inside
      exact (slot_agrees slot).mp (each _ (List.getElem_mem inside))
    · have nobody : s.state? i = none := by
        rw [state?, List.getElem?_eq_none (Nat.le_of_not_lt inside), Option.map_none]
      constructor
      · intro queued
        exact absurd (formed.queued_lt i queued) inside
      · intro ready
        simp [nobody] at ready
  · intro each t mem
    obtain ⟨i, slot⟩ := List.getElem?_of_mem mem
    exact (slot_agrees slot).mpr (each i)

theorem stacks_agree :
    (∀ t ∈ s.threads.tail, (t.stack.isSome == !t.isUnused) = true) ↔
      ∀ (i : Tid) (t : Thread κ), s.threads[i]? = some t → 1 ≤ i →
        (t.stack.isSome ↔ t.state ≠ .unused) := by
  have slot_agrees : ∀ t : Thread κ, (t.stack.isSome == !t.isUnused) = true ↔
      (t.stack.isSome ↔ t.state ≠ .unused) := by
    intro t
    rw [beq_iff_eq, Bool.eq_iff_iff]
    simp [Thread.isUnused]
  constructor
  · intro each i t slot first
    have later : s.threads.tail[i - 1]? = some t := by
      rwa [List.getElem?_tail, Nat.sub_add_cancel first]
    exact (slot_agrees t).mp (each t (List.mem_of_getElem? later))
  · intro each t mem
    obtain ⟨i, slot⟩ := List.getElem?_of_mem mem
    rw [List.getElem?_tail] at slot
    exact (slot_agrees t).mpr (each (i + 1) t slot (Nat.le_add_left 1 i))

theorem runs_alone {t : Thread κ} (slot : s.threads[s.current]? = some t) :
    s.threads.countP (fun t => t.state == .running) = 1 ∧ (t.state == .running) = true ↔
      ∀ i, s.state? i = some .running ↔ i = s.current := by
  rw [countP_eq_one_iff slot]
  constructor
  · intro each i
    rw [state?_eq_some]
    constructor
    · rintro ⟨u, at_i, running⟩
      exact (each i u at_i).mp (by simp [running])
    · rintro rfl
      exact ⟨t, slot, by simpa using (each s.current t slot).mpr rfl⟩
  · intro each i u at_i
    rw [← each i, state?, at_i]
    simp

/-- The check comes to a verdict in every state whose numbers are in order. -/
theorem Formed.check (formed : s.Formed) :
    ∃ verdict, s.invariantsHold = .ok verdict ∧ (verdict = true ↔ s.Passes) := by
  obtain ⟨t, at_current⟩ : ∃ t, s.threads[s.current]? = some t :=
    ⟨_, List.getElem?_eq_getElem formed.current_lt⟩
  obtain ⟨main, at_main⟩ : ∃ main, s.threads[0]? = some main :=
    ⟨_, List.getElem?_eq_getElem (Nat.zero_lt_of_lt formed.current_lt)⟩
  have queue : s.threads.mapM (fun t => do
        return (← s.ready.contains t.tid) == (t.state == .ready) : Thread κ → Except Halt Bool) =
      .ok (s.threads.map fun t => s.ready.toList.contains t.tid == (t.state == .ready)) :=
    mapM_eq_ok fun t _ => by rw [formed.ring.contains_eq, ok_bind, pure_eq_ok]
  have alone := runs_alone at_current
  have agree := formed.queue_agrees
  simp only [invariantsHold, Checked.get_eq_ok at_current, ok_bind]
  rw [queue, ok_bind, Checked.get_eq_ok at_main, ok_bind, pure_eq_ok]
  refine ⟨_, rfl, ?_⟩
  simp only [Bool.and_eq_true, List.all_map, List.all_eq_true, Function.comp_apply, id_eq,
    Bool.not_eq_true', Bool.eq_false_iff, ne_eq, beq_iff_eq (a := List.countP _ _)]
  constructor
  · rintro ⟨⟨⟨⟨once, runs⟩, queued⟩, owned⟩, awake⟩
    refine ⟨alone.mp ⟨once, runs⟩, agree.mp queued, stacks_agree.mp owned, fun u at_u => ?_⟩
    exact Option.some.inj (at_main.symm.trans at_u) ▸ awake
  · intro passes
    obtain ⟨once, runs⟩ := alone.mpr passes.running_iff
    exact ⟨⟨⟨⟨once, runs⟩, agree.mpr passes.queued_iff⟩, stacks_agree.mpr passes.stack_iff⟩,
      passes.awake main at_main⟩

theorem Formed.passes_iff (formed : s.Formed) : s.invariantsHold = .ok true ↔ s.Passes := by
  obtain ⟨verdict, checked, meaning⟩ := formed.check
  rw [checked, Except.ok.injEq, meaning]

theorem Formed.fails_iff (formed : s.Formed) : s.invariantsHold = .ok false ↔ ¬ s.Passes := by
  obtain ⟨verdict, checked, meaning⟩ := formed.check
  rw [checked, Except.ok.injEq, ← meaning, Bool.not_eq_true]

end RoundRobin.Scheduler
