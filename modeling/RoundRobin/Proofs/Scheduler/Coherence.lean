import RoundRobin.Proofs.Scheduler.Check
import Mathlib.Data.List.Perm.Subperm

/-!
# Table and queue agree

`Coherent` ties the thread table to the ready queue in every state that a disciplined caller sees,
also between an operation that takes the running thread off the processor and the decision that
follows. `Sound` adds what holds between operations: somebody runs, and no stack is parked. A sound
state passes its own check, `invariantsHold`.

A coherent state always has somebody in line, the main thread if nobody else, and the line never
has more members than the table has slots. So a decision can only fail by the counter.
-/

namespace RoundRobin

variable {κ : Type}

/-- What slot `i` may hold beside a queue and a current thread. -/
structure Thread.Consistent (queue : List Tid) (current i : Tid) (t : Thread κ) : Prop where
  numbered : t.tid = i
  running : t.state = .running → i = current
  queued : t.state = .ready ↔ i ∈ queue
  deadline : t.wakeAt ≠ 0 ↔ t.state.isSleeping
  blank : t.state = .unused → t.quanta = 0 ∧ t.wakeAt = 0
  stack : 1 ≤ i → (t.stack.isSome ↔ t.state ≠ .unused)
  entry : 1 ≤ i → (t.entry.isSome ↔ t.state ≠ .unused)
  main : i = 0 → t.state = .running ∨ t.state = .ready

/-- A live thread that changes its state keeps its stack and its entry. -/
theorem Thread.Consistent.move {queue queue' : List Tid} {current current' i : Tid}
    {t : Thread κ} (old : t.Consistent queue current i) (used : t.state ≠ .unused)
    {state : ThreadState} {quanta wakeAt : Nat} (live : state ≠ .unused)
    (running : state = .running → i = current') (queued : state = .ready ↔ i ∈ queue')
    (deadline : wakeAt ≠ 0 ↔ state.isSleeping)
    (main : i = 0 → state = .running ∨ state = .ready) :
    ({ t with state, quanta, wakeAt } : Thread κ).Consistent queue' current' i where
  numbered := old.numbered
  running := running
  queued := queued
  deadline := deadline
  blank := fun unused => absurd unused live
  stack := fun hi => by simpa [used, live] using old.stack hi
  entry := fun hi => by simpa [used, live] using old.entry hi
  main := main

namespace Scheduler

/-- Every slot is consistent with the queue, which holds each ready thread once. -/
structure Coherent (s : Scheduler κ) : Prop where
  current_lt : s.current < s.threads.length
  ring : s.ready.Holds s.threads.length s.ready.toList
  queued_lt : ∀ i ∈ s.ready.toList, i < s.threads.length
  nodup : s.ready.toList.Nodup
  slots : ∀ (i : Tid) (t : Thread κ), s.threads[i]? = some t →
    t.Consistent s.ready.toList s.current i

/-- The rules between operations. One thread runs, the current one; the queue holds the ready
threads, each once; slots know their numbers; spawned threads and nobody else own a stack and an
entry; deadlines belong to sleepers; unused slots are blank; nothing is parked. -/
structure Sound (s : Scheduler κ) : Prop where
  running_iff : ∀ i, s.state? i = some .running ↔ i = s.current
  queue_nodup : s.ready.toList.Nodup
  queued_iff : ∀ i, i ∈ s.ready.toList ↔ s.state? i = some .ready
  numbered : ∀ (i : Tid) (t : Thread κ), s.threads[i]? = some t → t.tid = i
  stack_iff : ∀ (i : Tid) (t : Thread κ), s.threads[i]? = some t → 1 ≤ i →
    (t.stack.isSome ↔ t.state ≠ .unused)
  entry_iff : ∀ (i : Tid) (t : Thread κ), s.threads[i]? = some t → 1 ≤ i →
    (t.entry.isSome ↔ t.state ≠ .unused)
  deadline_iff : ∀ (i : Tid) (t : Thread κ), s.threads[i]? = some t →
    (t.wakeAt ≠ 0 ↔ t.state = .sleeping ∨ t.state = .sleepBlocked)
  blank : ∀ (i : Tid) (t : Thread κ), s.threads[i]? = some t → t.state = .unused →
    t.quanta = 0 ∧ t.wakeAt = 0
  parked : s.parked = none

variable {s s' : Scheduler κ}

/-- Distinct numbers below a bound are no more than the bound. -/
theorem length_le_of_nodup {xs : List Nat} {n : Nat} (nodup : xs.Nodup)
    (below : ∀ i ∈ xs, i < n) : xs.length ≤ n := by
  have inRange : xs ⊆ List.range n := fun i hi => List.mem_range.mpr (below i hi)
  simpa using (List.subperm_of_subset nodup inRange).length_le

namespace Coherent

theorem formed (coh : s.Coherent) : s.Formed where
  numbered := fun i t at_i => (coh.slots i t at_i).numbered
  current_lt := coh.current_lt
  ring := coh.ring
  queued_lt := coh.queued_lt

theorem slot_of_lt {i : Tid} (hi : i < s.threads.length) : ∃ t, s.threads[i]? = some t :=
  ⟨_, List.getElem?_eq_getElem hi⟩

theorem queued_iff (coh : s.Coherent) (i : Tid) :
    i ∈ s.ready.toList ↔ s.state? i = some .ready := by
  rw [state?_eq_some]
  constructor
  · intro hi
    obtain ⟨t, at_i⟩ := slot_of_lt (coh.queued_lt i hi)
    exact ⟨t, at_i, (coh.slots i t at_i).queued.mpr hi⟩
  · rintro ⟨t, at_i, ready⟩
    exact (coh.slots i t at_i).queued.mp ready

/-- Who stands in line, by the state of their slot. -/
theorem mem_line (coh : s.Coherent) (i : Tid) :
    i ∈ s.line ↔ ∃ t, s.threads[i]? = some t ∧
      (t.state = .ready ∨ (t.isDue s.total ∧ t.state = .sleeping) ∨ t.state = .running) := by
  have woken : i ∈ wokenBy s.total s.threads ↔
      ∃ t, s.threads[i]? = some t ∧ t.isDue s.total ∧ t.state = .sleeping := by
    rw [mem_wokenBy]
    constructor
    · rintro ⟨t, mem, due, asleep, rfl⟩
      obtain ⟨j, at_j⟩ := List.getElem?_of_mem mem
      exact ⟨t, by rwa [(coh.slots j t at_j).numbered], due, asleep⟩
    · rintro ⟨t, at_i, due, asleep⟩
      exact ⟨t, List.mem_of_getElem? at_i, due, asleep, (coh.slots i t at_i).numbered⟩
  have preempted : i ∈ s.preempted ↔ ∃ t, s.threads[i]? = some t ∧ t.state = .running := by
    rw [← state?_eq_some, Scheduler.preempted]
    constructor
    · intro hi
      split at hi
      · next running => rwa [List.mem_singleton.mp hi]
      · exact absurd hi List.not_mem_nil
    · intro running
      obtain ⟨t, at_i, h⟩ := state?_eq_some.mp running
      obtain rfl := (coh.slots i t at_i).running h
      simp [running]
  rw [line, List.mem_append, List.mem_append, woken, preempted, coh.queued_iff, state?_eq_some]
  constructor
  · rintro ((⟨t, at_i, h⟩ | ⟨t, at_i, h⟩) | ⟨t, at_i, h⟩)
    · exact ⟨t, at_i, .inl h⟩
    · exact ⟨t, at_i, .inr (.inl h)⟩
    · exact ⟨t, at_i, .inr (.inr h)⟩
  · rintro ⟨t, at_i, h | h | h⟩
    · exact .inl (.inl ⟨t, at_i, h⟩)
    · exact .inl (.inr ⟨t, at_i, h⟩)
    · exact .inr ⟨t, at_i, h⟩

theorem wokenBy_nodup (coh : s.Coherent) : (wokenBy s.total s.threads).Nodup := by
  have numbers := coh.formed.map_tid
  have sub : (wokenBy s.total s.threads).Sublist (s.threads.map Thread.tid) :=
    List.filter_sublist.map Thread.tid
  exact (numbers ▸ List.nodup_range).sublist sub

/-- Nobody stands in line twice: queued, woken and preempted threads are in different states. -/
theorem line_nodup (coh : s.Coherent) : s.line.Nodup := by
  have state_of_woken : ∀ i ∈ wokenBy s.total s.threads, s.state? i = some .sleeping := by
    intro i hi
    obtain ⟨t, mem, _, asleep, rfl⟩ := mem_wokenBy.mp hi
    obtain ⟨j, at_j⟩ := List.getElem?_of_mem mem
    rw [(coh.slots j t at_j).numbered]
    exact state?_eq_some.mpr ⟨t, at_j, asleep⟩
  have state_of_preempted : ∀ i ∈ s.preempted, s.state? i = some .running := by
    intro i hi
    unfold preempted at hi
    split at hi
    · next running => rwa [List.mem_singleton.mp hi]
    · exact absurd hi List.not_mem_nil
  have preempted_nodup : s.preempted.Nodup := by
    unfold preempted
    split
    · simp
    · simp
  rw [line, List.nodup_append, List.nodup_append]
  refine ⟨⟨coh.nodup, coh.wokenBy_nodup, ?_⟩, preempted_nodup, ?_⟩
  · rintro i queued _ woken rfl
    have ready := (coh.queued_iff i).mp queued
    have asleep := state_of_woken i woken
    simp [ready] at asleep
  · rintro i waiting _ preempted rfl
    have running := state_of_preempted i preempted
    rcases List.mem_append.mp waiting with queued | woken
    · simp [(coh.queued_iff i).mp queued] at running
    · simp [state_of_woken i woken] at running

theorem line_length_le (coh : s.Coherent) : s.line.length ≤ s.threads.length :=
  length_le_of_nodup coh.line_nodup coh.formed.line_lt

/-- A thread that is not in the queue finds room there. -/
theorem room (coh : s.Coherent) {tid : Tid} (inside : tid < s.threads.length)
    (absent : tid ∉ s.ready.toList) : s.ready.toList.length < s.threads.length := by
  have nodup : (tid :: s.ready.toList).Nodup := List.nodup_cons.mpr ⟨absent, coh.nodup⟩
  refine length_le_of_nodup nodup fun i hi => ?_
  rcases List.mem_cons.mp hi with rfl | hi
  · exact inside
  · exact coh.queued_lt i hi

theorem main_mem_line (coh : s.Coherent) : 0 ∈ s.line := by
  obtain ⟨main, at_main⟩ := slot_of_lt (Nat.zero_lt_of_lt coh.current_lt)
  rw [coh.mem_line]
  rcases (coh.slots 0 main at_main).main rfl with running | ready
  · exact ⟨main, at_main, .inr (.inr running)⟩
  · exact ⟨main, at_main, .inl ready⟩

/-- In a coherent state a decision is made, unless the counter is at its end. -/
theorem schedule_cases (coh : s.Coherent) :
    (∃ switch s', s.schedule = .ok (switch, s') ∧ s.Decision switch s' ∧
        s'.parked = s.parked) ∨
      (wordMax ≤ s.total ∧ s.schedule = .error (.fault .addOverflow)) := by
  rcases coh.formed.schedule_cases with decided | ⟨crowded, _⟩ | full | ⟨nobody, _⟩
  · exact .inl decided
  · exact absurd coh.line_length_le (Nat.not_le_of_lt crowded)
  · exact .inr full
  · exact absurd coh.main_mem_line (by simp [nobody])

end Coherent

/-- Slot `i` now holds `t` and the queue is `queue`; the other slots, the current thread, the
counter, the parked stack and the wish to shut down are as before. -/
structure Update (s : Scheduler κ) (i : Tid) (t : Thread κ) (queue : List Tid)
    (s' : Scheduler κ) : Prop where
  inside : i < s.threads.length
  threads : s'.threads = s.threads.set i t
  ring : s'.ready.Holds s.threads.length queue
  current : s'.current = s.current
  total : s'.total = s.total
  parked : s'.parked = s.parked
  shutdown : s'.shutdown = s.shutdown

namespace Update

variable {i : Tid} {t : Thread κ} {queue : List Tid}

theorem here (up : s.Update i t queue s') : s'.threads[i]? = some t := by
  rw [up.threads, List.getElem?_set_self up.inside]

theorem elsewhere (up : s.Update i t queue s') {j : Tid} (ne : j ≠ i) :
    s'.threads[j]? = s.threads[j]? := by
  rw [up.threads, List.getElem?_set_ne (Ne.symm ne)]

theorem length_eq (up : s.Update i t queue s') : s'.threads.length = s.threads.length := by
  rw [up.threads, List.length_set]

theorem queue_eq (up : s.Update i t queue s') : s'.ready.toList = queue := up.ring.toList_eq

/-- Only the slot that changes has to be looked at again. -/
theorem coherent (up : s.Update i t queue s') (coh : s.Coherent) (nodup : queue.Nodup)
    (others : ∀ j, j ≠ i → (j ∈ queue ↔ j ∈ s.ready.toList))
    (slot : t.Consistent queue s.current i) : s'.Coherent := by
  have size := up.length_eq
  refine ⟨by rw [up.current, size]; exact coh.current_lt, by rw [size, up.queue_eq]; exact up.ring,
    ?_, by rwa [up.queue_eq], ?_⟩
  · intro j hj
    rw [up.queue_eq] at hj
    rw [size]
    by_cases same : j = i
    · exact same ▸ up.inside
    · exact coh.queued_lt j ((others j same).mp hj)
  · intro j u at_j
    rw [up.queue_eq, up.current]
    by_cases same : j = i
    · subst j
      rw [up.here] at at_j
      exact Option.some.inj at_j ▸ slot
    · rw [up.elsewhere same] at at_j
      have old := coh.slots j u at_j
      exact { old with queued := old.queued.trans (others j same).symm }

end Update

namespace Decision

variable {switch : Switch}

theorem length_eq (dec : s.Decision switch s') : s'.threads.length = s.threads.length :=
  length_eq_of_slots dec.slots

/-- The new queue is the line without the thread that got the processor. -/
theorem mem_queue (dec : s.Decision switch s') (coh : s.Coherent) (i : Tid) :
    i ∈ s'.ready.toList ↔ i ∈ s.line ∧ i ≠ switch.target := by
  have nodup := coh.line_nodup
  rw [dec.line, List.nodup_cons] at nodup
  rw [dec.line, List.mem_cons]
  constructor
  · intro hi
    exact ⟨.inr hi, fun same => nodup.1 (same ▸ hi)⟩
  · rintro ⟨front | hi, ne⟩
    · exact absurd front ne
    · exact hi

theorem target_slot (dec : s.Decision switch s') (coh : s.Coherent) :
    ∃ t, s.threads[switch.target]? = some t ∧
      (t.state = .ready ∨ (t.isDue s.total ∧ t.state = .sleeping) ∨ t.state = .running) :=
  (coh.mem_line switch.target).mp (by rw [dec.line]; exact List.mem_cons_self)

/-- The thread that is picked runs. -/
theorem target_running (dec : s.Decision switch s') (coh : s.Coherent) :
    s'.state? switch.target = some .running := by
  obtain ⟨t, at_target, _⟩ := dec.target_slot coh
  simp [state?, dec.slots, at_target, turn, Thread.markRunning]

/-- The five things that a decision for `target` can do to the thread of slot `i`. -/
inductive Turned (s : Scheduler κ) (target i : Tid) (t : Thread κ) : Thread κ → Prop where
  | picked (here : i = target)
      (waited : t.state = .ready ∨ (t.isDue s.total ∧ t.state = .sleeping) ∨ t.state = .running) :
      Turned s target i t
        { t with state := .running, quanta := addSaturating t.quanta 1, wakeAt := 0 }
  | requeued (other : i ≠ target) (running : t.state = .running) :
      Turned s target i t { t with state := .ready }
  | woken (other : i ≠ target) (due : t.isDue s.total) (asleep : t.state = .sleeping) :
      Turned s target i t { t with state := .ready, wakeAt := 0 }
  | heldBack (other : i ≠ target) (due : t.isDue s.total) (asleep : t.state = .sleepBlocked) :
      Turned s target i t { t with state := .blocked, wakeAt := 0 }
  | untouched (other : i ≠ target) (resting : t.state ≠ .running) (early : ¬ t.isDue s.total) :
      Turned s target i t t

theorem slot_cases (dec : s.Decision switch s') (coh : s.Coherent) {i : Tid} {t : Thread κ}
    (at_i : s.threads[i]? = some t) :
    ∃ u, s'.threads[i]? = some u ∧ Turned s switch.target i t u := by
  have slot := coh.slots i t at_i
  have awake : ¬ t.state.isSleeping → t.wakeAt = 0 ∧ ¬ t.isDue s.total := by
    intro h
    exact ⟨by simpa using fun ne => h (slot.deadline.mp ne),
      fun due => h ((t.isDue_iff s.total).mp due).2.2⟩
  refine ⟨s.turn switch.target i t, by rw [dec.slots, at_i, Option.map_some], ?_⟩
  by_cases here : i = switch.target
  · obtain ⟨t', at_target, waited⟩ := dec.target_slot coh
    obtain rfl : t = t' := Option.some.inj (at_i.symm.trans (here ▸ at_target))
    have picked := Turned.picked here waited
    rcases waited with ready | ⟨due, asleep⟩ | running
    · obtain ⟨zero, early⟩ := awake (by simp [ready, ThreadState.isSleeping])
      convert picked using 1
      simp [turn, here, Thread.expired_of_not_due early, ready, Thread.markRunning, zero]
    · convert picked using 1
      simp [turn, here, Thread.expired_of_sleeping due asleep, asleep, Thread.markRunning]
    · obtain ⟨zero, early⟩ := awake (by simp [running, ThreadState.isSleeping])
      have current := slot.running running
      convert picked using 1
      simp [turn, ← here, ← current, Thread.expired_of_not_due early, running,
        Thread.markRunning, Thread.markReady, zero]
  · by_cases running : t.state = .running
    · obtain ⟨_, early⟩ := awake (by simp [running, ThreadState.isSleeping])
      have requeued := Turned.requeued (s := s) here running
      have current := slot.running running
      convert requeued using 1
      simp [turn, here, ← current, Thread.expired_of_not_due early, running, Thread.markReady]
    · by_cases due : t.isDue s.total
      · rcases Thread.asleep_of_due due with asleep | asleep
        · have woken := Turned.woken here due asleep
          convert woken using 1
          simp [turn, here, Thread.expired_of_sleeping due asleep, asleep]
        · have heldBack := Turned.heldBack here due asleep
          convert heldBack using 1
          simp [turn, here, Thread.expired_of_sleepBlocked due asleep, asleep]
      · have untouched := Turned.untouched here running due
        convert untouched using 1
        simp [turn, here, Thread.expired_of_not_due due, running]

/-- The same, read from the table that the decision leaves. -/
theorem slot_turned (dec : s.Decision switch s') (coh : s.Coherent) {i : Tid} {u : Thread κ}
    (at_i : s'.threads[i]? = some u) :
    ∃ t, s.threads[i]? = some t ∧ Turned s switch.target i t u := by
  obtain ⟨t, at_t, _⟩ : ∃ t, s.threads[i]? = some t ∧ s.turn switch.target i t = u := by
    simpa [dec.slots] using at_i
  obtain ⟨u', at_u, turned⟩ := dec.slot_cases coh at_t
  obtain rfl : u' = u := Option.some.inj (at_u.symm.trans at_i)
  exact ⟨t, at_t, turned⟩

/-- A decision restores what an operation may have left open: somebody runs again. -/
theorem coherent (dec : s.Decision switch s') (coh : s.Coherent) : s'.Coherent := by
  have target_lt : switch.target < s.threads.length := by
    obtain ⟨t, at_target, _⟩ := dec.target_slot coh
    exact (List.getElem?_eq_some_iff.mp at_target).1
  refine ⟨by rwa [dec.current, dec.length_eq], by rw [dec.length_eq]; exact dec.ring, ?_, ?_, ?_⟩
  · intro i hi
    rw [dec.length_eq]
    exact coh.formed.line_lt i ((dec.mem_queue coh i).mp hi).1
  · have nodup := coh.line_nodup
    rw [dec.line] at nodup
    exact (List.nodup_cons.mp nodup).2
  · intro i u at_i
    obtain ⟨t, at_t, turned⟩ := dec.slot_turned coh at_i
    have old := coh.slots i t at_t
    have queued := dec.mem_queue coh i
    rw [coh.mem_line i] at queued
    simp only [at_t, Option.some.injEq, exists_eq_left'] at queued
    rw [dec.current]
    cases turned with
    | picked here waited =>
      have used : t.state ≠ .unused := by
        rcases waited with h | ⟨_, h⟩ | h <;> simp [h]
      have gone : i ∉ s'.ready.toList := fun hi => (queued.mp hi).2 here
      exact old.move used (by simp) (fun _ => here) (by simp [gone]) (by simp) (fun _ => .inl rfl)
    | requeued other running =>
      have waits : i ∈ s'.ready.toList := queued.mpr ⟨.inr (.inr running), other⟩
      have zero := old.deadline
      rw [running] at zero
      exact old.move (by simp [running]) (by simp) (by simp) (by simp [waits]) zero
        (fun _ => .inr rfl)
    | woken other due asleep =>
      have waits : i ∈ s'.ready.toList := queued.mpr ⟨.inr (.inl ⟨due, asleep⟩), other⟩
      exact old.move (by simp [asleep]) (by simp) (by simp) (by simp [waits]) (by simp)
        (fun _ => .inr rfl)
    | heldBack other due asleep =>
      have absent : i ∉ s'.ready.toList := fun hi => by simpa [asleep] using queued.mp hi
      exact old.move (by simp [asleep]) (by simp) (by simp) (by simp [absent]) (by simp)
        (fun main => by simpa [asleep] using old.main main)
    | untouched other resting early =>
      exact { old with
        running := fun running => absurd running resting
        queued := by simp [queued, other, resting, early] }

end Decision

namespace Coherent

theorem running_iff (coh : s.Coherent) (runs : s.state? s.current = some .running) (i : Tid) :
    s.state? i = some .running ↔ i = s.current := by
  constructor
  · intro running
    obtain ⟨t, at_i, h⟩ := state?_eq_some.mp running
    exact (coh.slots i t at_i).running h
  · rintro rfl
    exact runs

theorem sound (coh : s.Coherent) (runs : s.state? s.current = some .running)
    (parked : s.parked = none) : s.Sound where
  running_iff := coh.running_iff runs
  queue_nodup := coh.nodup
  queued_iff := coh.queued_iff
  numbered := fun i t at_i => (coh.slots i t at_i).numbered
  stack_iff := fun i t at_i hi => (coh.slots i t at_i).stack hi
  entry_iff := fun i t at_i hi => (coh.slots i t at_i).entry hi
  deadline_iff := fun i t at_i =>
    (coh.slots i t at_i).deadline.trans (ThreadState.isSleeping_iff t.state)
  blank := fun i t at_i => (coh.slots i t at_i).blank
  parked := parked

theorem passes (coh : s.Coherent) (runs : s.state? s.current = some .running) : s.Passes where
  running_iff := coh.running_iff runs
  queued_iff := coh.queued_iff
  stack_iff := fun i t at_i hi => (coh.slots i t at_i).stack hi
  awake := fun main at_main => by
    rcases (coh.slots 0 main at_main).main rfl with h | h <;> simp [h]

/-- A state between operations passes its own check. -/
theorem invariantsHold_eq (coh : s.Coherent) (runs : s.state? s.current = some .running) :
    s.invariantsHold = .ok true :=
  coh.formed.passes_iff.mpr (coh.passes runs)

end Coherent

end Scheduler

end RoundRobin
