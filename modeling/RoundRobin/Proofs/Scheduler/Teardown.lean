import RoundRobin.Proofs.Scheduler.Careless

/-!
# Teardown under a spawned thread

When the process is to end while a spawned thread is current, the processor goes straight to the
main thread, past everybody in the queue, and then the table is torn down. In between two threads
run and the outgoing one is neither queued nor suspended, so the check fails. The teardown removes
everything that is wrong: it leaves a settled state with the main thread alone in the table.
-/

namespace RoundRobin.Scheduler

variable {κ : Type} {s : Scheduler κ} {main : Thread κ}

/-- A teardown leaves a settled state wherever the main thread runs and is current. Nothing else is
asked of the table. -/
theorem releaseAll_settled (formed : s.Formed) (first : s.current = 0)
    (slot : s.threads[0]? = some main) (running : main.state = .running)
    (undated : main.wakeAt = 0) : s.releaseAll.2.Settled := by
  have torn := releaseAll_formed formed
  have queue : s.releaseAll.2.ready.toList = [] := formed.ring.reset.toList_eq
  have current : s.releaseAll.2.current = 0 := first
  have kept : s.releaseAll.2.threads[0]? = some main := releaseAll_slot slot
  refine ⟨⟨torn.current_lt, torn.ring, torn.queued_lt, by simp [queue], ?_⟩, ?_, rfl⟩
  · intro i t at_i
    rw [queue, current]
    by_cases zero : i = 0
    · subst zero
      obtain rfl := Option.some.inj (kept.symm.trans at_i)
      exact
        { numbered := formed.numbered 0 main slot
          running := fun _ => rfl
          queued := by simp [running]
          deadline := by simp [undated, running]
          blank := by simp [running]
          stack := by simp
          entry := by simp
          main := fun _ => .inl running }
    · obtain ⟨u, here, rfl⟩ := releaseAll_slot_inv at_i
      rw [if_neg zero, formed.numbered i u here]
      exact unused_consistent zero List.not_mem_nil
  · rw [current]
    exact state?_eq_some.mpr ⟨main, kept, running⟩

/-- In a coherent table the stacks of the spawned threads count the live ones. -/
theorem Coherent.stacks_length (coh : s.Coherent) :
    (s.threads.tail.filterMap Thread.stack).length = s.threads.tail.countP (!·.isUnused) := by
  have owned := stacks_agree.mpr fun i t at_i first => (coh.slots i t at_i).stack first
  rw [List.length_filterMap_eq_countP]
  refine List.countP_congr fun t mem => ?_
  rw [beq_iff_eq.mp (owned t mem)]

/-- While a spawned thread runs, the main thread waits and has no deadline. -/
theorem Settled.main_waits (settled : s.Settled) (spawned : s.current ≠ 0)
    (slot : s.threads[0]? = some main) : main.state = .ready ∧ main.wakeAt = 0 := by
  have old := settled.coherent.slots 0 main slot
  have ready : main.state = .ready :=
    (old.main rfl).resolve_left fun running => spawned (old.running running).symm
  have awake : ¬ main.wakeAt ≠ 0 := fun dated => by simpa [ready] using old.deadline.mp dated
  exact ⟨ready, not_not.mp awake⟩

/-- The hand-off touches the main thread's slot and its place in the queue. It leaves the outgoing
thread running, so that two threads run. -/
theorem Settled.handOff_spec (settled : s.Settled) (spawned : s.current ≠ 0)
    (slot : s.threads[0]? = some main) :
    ∃ handed, s.handOff = .ok (⟨s.current, 0⟩, handed) ∧ handed.Formed ∧
      handed.invariantsHold = .ok false ∧
      handed.threads = s.threads.set 0 { main with state := .running } ∧ handed.current = 0 ∧
      handed.total = s.total ∧ handed.parked = s.parked ∧ handed.shutdown = s.shutdown := by
  have formed := settled.coherent.formed
  obtain ⟨ready, ring, done⟩ := handOff_eq formed slot
  have up : s.Update 0 { main with state := .running } (s.ready.toList.erase 0)
      { s with threads := s.threads.set 0 { main with state := .running }, ready } :=
    ⟨(List.getElem?_eq_some_iff.mp slot).1, rfl, ring, rfl, rfl, rfl, rfl⟩
  have between := (Change.handedOff slot up).formed formed
  refine ⟨_, done, between, ?_, rfl, rfl, rfl, rfl, rfl⟩
  refine between.fails_iff.mpr fun passes => spawned ((passes.running_iff s.current).mp ?_)
  have outgoing := up.elsewhere spawned
  exact (congrArg (Option.map Thread.state) outgoing).trans settled.runs

/-- Whichever spawned thread of a disciplined run is current, and whatever the others wait for, a
teardown restores a clean scheduler. The end of the process is asked for, the processor handed to
the main thread and everything else released: as many stacks as there were live spawned threads,
the current one included. The main thread is then alone, current and running, with its turns as they
were; the check, which fails after the hand-off, holds again, and goes on to hold. -/
theorem teardown_restores_clean (capacity : Nat) (one : 1 ≤ capacity) (fits : capacity < 2 ^ 60)
    (prime : Tid → Stack → Option κ) :
    ∃ start : Bench κ, Bench.new capacity = .ok start ∧
      ∀ steps b, Run prime start steps b → b.scheduler.current ≠ 0 →
        ∃ asked handed torn cleared,
          b.scheduler.terminate 0 = .ok (.ok .processEnd, asked) ∧
          asked.handOff = .ok (⟨b.scheduler.current, 0⟩, handed) ∧
          handed.invariantsHold = .ok false ∧
          handed.releaseAll = (torn, cleared) ∧
          torn.released.length = b.scheduler.threads.tail.countP (!·.isUnused) ∧
          torn.parked = none ∧
          cleared.threads.length = capacity ∧
          (∀ i, 1 ≤ i → i < capacity → cleared.threads[i]? = some (Thread.unused i)) ∧
          cleared.ready.toList = [] ∧
          cleared.current = 0 ∧
          cleared.stateOf 0 = .ok .running ∧
          cleared.quantaOf 0 = b.scheduler.quantaOf 0 ∧
          cleared.total = b.scheduler.total ∧
          cleared.shutdown = true ∧
          cleared.parked = none ∧
          cleared.invariantsHold = .ok true ∧
          ∀ (held : Option Stack) (prime' : Tid → Stack → Option κ),
            Safe prime' ⟨cleared, held⟩ := by
  obtain ⟨start, new, fresh, size, _⟩ := new_settled one fits
  refine ⟨start, new, fun steps b run spawned => ?_⟩
  have settled := run.settled fresh
  have coh := settled.coherent
  have asked : ({ b.scheduler with shutdown := true } : Scheduler κ).Settled :=
    ⟨Effect.endedMain.coherent coh, settled.runs, settled.parked⟩
  obtain ⟨main, slot⟩ := Coherent.slot_of_lt (Nat.zero_lt_of_lt coh.current_lt)
  obtain ⟨_, undated⟩ := settled.main_waits spawned slot
  obtain ⟨handed, done, formed, fails, threads, current, total, parked, shutdown⟩ :=
    asked.handOff_spec spawned slot
  have length : handed.threads.length = capacity := by
    rw [threads, List.length_set]
    exact (run.length_eq fresh).trans size
  have tail : handed.threads.tail = b.scheduler.threads.tail := by
    rw [threads]
    cases b.scheduler.threads <;> rfl
  have at_main : handed.threads[0]? = some { main with state := .running } := by
    rw [threads, List.getElem?_set_self (List.getElem?_eq_some_iff.mp slot).1]
  have clean := releaseAll_settled formed current at_main rfl undated
  refine ⟨_, handed, handed.releaseAll.1, handed.releaseAll.2, rfl, done, fails, rfl, ?_,
    parked.trans settled.parked, releaseAll_length.trans length, ?_,
    formed.ring.reset.toList_eq, current,
    (stateOf_main clean.coherent.formed _).mpr (current ▸ clean.runs), ?_, total, shutdown, rfl,
    clean.coherent.invariantsHold_eq clean.runs, fun _ prime' => clean.safe prime'⟩
  · rw [← coh.stacks_length, ← tail]
    rfl
  · intro i first last
    obtain ⟨t, at_i⟩ := Coherent.slot_of_lt (length.symm ▸ last)
    rw [releaseAll_slot at_i, if_neg (Nat.ne_of_gt first), formed.numbered i t at_i]
  · have kept := releaseAll_slot at_main
    simp [quantaOf, thread, kept, slot, Except.map]

/-- Thread 1 sleeps, thread 2 is blocked and thread 3 current when the process is to end. All three
are counted, and the table is free for threads again. -/
theorem teardown_restores_clean_mixed :
    ∃ (start : Bench Unit) (steps : List (Step Unit)) (b : Bench Unit)
      (asked handed : Scheduler Unit) (torn : Teardown) (cleared : Scheduler Unit),
      1 ≤ 4 ∧ 4 < 2 ^ 60 ∧ Bench.new 4 = .ok start ∧ Run (fun _ _ => none) start steps b ∧
        b.scheduler.current = 3 ∧ b.scheduler.state? 1 = some .sleeping ∧
        b.scheduler.state? 2 = some .blocked ∧
        b.scheduler.terminate 0 = .ok (.ok .processEnd, asked) ∧
        asked.handOff = .ok (⟨3, 0⟩, handed) ∧ handed.invariantsHold = .ok false ∧
        handed.releaseAll = (torn, cleared) ∧ torn.released.length = 3 ∧
        cleared.invariantsHold = .ok true ∧ Safe (fun _ _ => none) ⟨cleared, none⟩ := by
  obtain ⟨start, new, all⟩ :=
    teardown_restores_clean (κ := Unit) 4 (by decide) (by decide) fun _ _ => none
  obtain ⟨steps, b, performed, current, asleep, blocked, alive⟩ :
      ∃ (steps : List (Step Unit)) (b : Bench Unit),
        perform (fun _ _ => none) 4
            [.spawn (some 7) 4096 (mapAt 65536), .spawn (some 8) 4096 (mapAt 131072),
              .spawn (some 9) 4096 (mapAt 262144), .schedule, .sleep 9, .block 2] =
          .ok (steps, b) ∧
          b.scheduler.current = 3 ∧ b.scheduler.state? 1 = some .sleeping ∧
          b.scheduler.state? 2 = some .blocked ∧
          b.scheduler.threads.tail.countP (!·.isUnused) = 3 :=
    ⟨_, _, rfl, rfl, rfl, rfl, rfl⟩
  have run := perform_run new _ (by decide) performed
  obtain ⟨asked, handed, torn, cleared, ended, handedOff, fails, released, count, _, _, _, _, _, _,
      _, _, _, _, holds, safe⟩ := all steps b run (by rw [current]; decide)
  rw [current] at handedOff
  exact ⟨start, steps, b, asked, handed, torn, cleared, by decide, by decide, new, run, current,
    asleep, blocked, ended, handedOff, fails, released, count.trans alive, holds, safe none _⟩

end RoundRobin.Scheduler
