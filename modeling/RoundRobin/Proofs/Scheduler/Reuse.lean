import RoundRobin.Proofs.Scheduler.Refusals
import RoundRobin.Proofs.Scheduler.Discipline

/-!
# Slots used again

A thread that ends leaves its slot blank, in whatever state it ended, and a slot that is blank stays
so until a thread is admitted to it. So a fresh thread finds nothing of those before it, and to end
it at once takes back all that its admission did.
-/

namespace RoundRobin.Scheduler

variable {κ : Type}

/-- Slots that belong to nobody hold nothing of those who had them. -/
def Clean (s : Scheduler κ) : Prop :=
  ∀ (i : Tid) (t : Thread κ), s.threads[i]? = some t → t.state = .unused → t = Thread.unused i

variable {s s' : Scheduler κ} {op : Op} {answer : Answer}

theorem Update.clean {i : Tid} {t : Thread κ} {queue : List Tid} (up : s.Update i t queue s')
    (clean : s.Clean) (new : t.state = .unused → t = Thread.unused i) : s'.Clean := by
  intro j u slot unused
  by_cases same : j = i
  · subst same
    obtain rfl : t = u := Option.some.inj (up.here.symm.trans slot)
    exact new unused
  · rw [up.elsewhere same] at slot
    exact clean j u slot unused

theorem Decision.clean {switch : Switch} (dec : s.Decision switch s') (coh : s.Coherent)
    (clean : s.Clean) : s'.Clean := by
  intro i u slot unused
  obtain ⟨t, at_i, turned⟩ := dec.slot_turned coh slot
  -- Only threads that wait, run or sleep are touched, and none of them is left unused.
  cases turned with
  | untouched => exact clean i u at_i unused
  | picked | requeued | woken | heldBack => simp at unused

theorem Effect.clean (effect : s.Effect op answer s') (coh : s.Coherent) (clean : s.Clean) :
    s'.Clean := by
  cases effect with
  | refused | blockedAgain | resumedIdle | endedMain => exact clean
  | decided dec => exact dec.clean coh clean
  | admitted _ _ _ _ _ _ up => exact up.clean clean (by simp)
  | blockedAsleep _ _ _ up | blockedReady _ _ _ up | blockedRunning _ _ _ up
  | resumedBlocked _ _ up | resumedAsleep _ _ up | slept _ _ _ _ up =>
    exact up.clean clean (by simp [Thread.putToSleep])
  | endedOther _ _ _ _ up | endedSelf _ _ _ up => exact up.clean clean fun _ => rfl

section Runs

variable {b b' start : Bench κ} {prime : Tid → Stack → Option κ} {step : Step κ}
  {steps : List (Step κ)}

theorem Step.Valid.clean (valid : step.Valid prime) (settled : step.before.scheduler.Settled)
    (clean : step.before.scheduler.Clean) : step.after.scheduler.Clean := by
  have coh := settled.coherent
  cases valid.course settled with
  | quiet _ effect => exact effect.clean coh clean
  | ticked _ _ _ dec => exact dec.clean coh clean
  | yielded _ effect _ dec => exact dec.clean (effect.coherent coh) (effect.clean coh clean)

theorem Run.clean (run : Run prime b steps b') (settled : b.scheduler.Settled)
    (clean : b.scheduler.Clean) : b'.scheduler.Clean := by
  induction run with
  | stop b => exact clean
  | step valid _ ih => exact ih (valid.settled_after settled) (valid.clean settled clean)

theorem new_clean {capacity : Nat} (new : Bench.new capacity = .ok start) :
    start.scheduler.Clean := by
  intro i t slot unused
  have made := new_slots new slot
  by_cases main : i = 0
  · subst made
    simp [main, Thread.markRunning] at unused
  · rwa [if_neg main] at made

end Runs

section Spawning

variable {entry : Option Nat} {size : Nat} {map : Nat → Except OsError Nat}
  {prime : Tid → Stack → Option κ} {tid : Tid}

/-- What a spawn that succeeds does to a coherent state: the least free slot is taken and its number
queued last. -/
theorem Coherent.spawned (coh : s.Coherent)
    (spawned : s.spawn entry size map prime = .ok (.ok tid, s')) :
    ∃ program stack, entry = some program ∧ Stack.request map size = .ok (.ok stack) ∧
      1 ≤ tid ∧ s.state? tid = some .unused ∧
      (∀ i, 1 ≤ i → i < tid → s.state? i ≠ some .unused) ∧
      s' =
        { s with
          threads := s.threads.set tid (.fresh tid program stack (prime tid stack))
          ready := s'.ready } ∧
      s'.ready.Holds s.threads.length (s.ready.toList ++ [tid]) := by
  obtain ⟨program, stack, old, ready, rfl, asked, free, rfl, pushed, rfl⟩ :=
    coh.formed.spawn_inv spawned
  obtain ⟨other, slot, unused⟩ := coh.formed.freeSlot?_eq_some free
  have vacant : s.state? old.tid = some .unused := state?_eq_some.mpr ⟨old, slot, unused⟩
  have absent : old.tid ∉ s.ready.toList := fun queued => by
    simp [(coh.queued_iff old.tid).mp queued] at vacant
  have inside := (List.getElem?_eq_some_iff.mp slot).1
  obtain ⟨queue, enqueued, ring⟩ := enqueue_eq coh.ring (coh.room inside absent) old.tid
  obtain rfl : ready = queue := Except.ok.inj (pushed.symm.trans enqueued)
  exact ⟨program, stack, rfl, asked, Nat.one_le_iff_ne_zero.mpr other, vacant,
    fun i first lower => coh.formed.freeSlot?_least free first lower, rfl, ring⟩

theorem Coherent.fresh_slot (coh : s.Coherent)
    (spawned : s.spawn entry size map prime = .ok (.ok tid, s')) {stack : Stack}
    (asked : Stack.request map size = .ok (.ok stack)) :
    s'.threads[tid]? = entry.map fun program => .fresh tid program stack (prime tid stack) := by
  obtain ⟨program, stack', rfl, asked', _, vacant, _, made, _⟩ := coh.spawned spawned
  obtain rfl : stack = stack' := Except.ok.inj (Except.ok.inj (asked.symm.trans asked'))
  obtain ⟨old, slot, _⟩ := state?_eq_some.mp vacant
  rw [made, List.getElem?_set_self (List.getElem?_eq_some_iff.mp slot).1, Option.map_some]

/-- To end a fresh thread at once takes its admission back. -/
theorem Settled.terminate_fresh (settled : s.Settled) (clean : s.Clean) (other : tid ≠ 0)
    (vacant : s.state? tid = some .unused) {ready : ReadyQueue}
    (ring : ready.Holds s.threads.length (s.ready.toList ++ [tid])) (program : Nat) (stack : Stack)
    (context : Option κ) :
    ∃ ready', ({ s with
          threads := s.threads.set tid (.fresh tid program stack context)
          ready } : Scheduler κ).terminate tid =
        .ok (.ok (.removed (some stack)), { s with ready := ready' }) ∧
      ready'.toList = s.ready.toList := by
  obtain ⟨old, slot, unused⟩ := state?_eq_some.mp vacant
  obtain rfl : old = Thread.unused tid := clean tid old slot unused
  have inside := (List.getElem?_eq_some_iff.mp slot).1
  have absent : tid ∉ s.ready.toList := fun queued => by
    simp [(settled.coherent.queued_iff tid).mp queued] at vacant
  have waiting : tid ≠ s.current := by
    rintro rfl
    simp [settled.runs] at vacant
  obtain ⟨ready', removed, held⟩ := ring.remove_eq tid
  rw [List.erase_append_right _ absent, List.erase_cons_head, List.append_nil] at held
  refine ⟨ready', ?_, held.toList_eq⟩
  -- The slot was blank before, so to blank it is to undo what the admission wrote.
  have restored : s.threads.set tid (Thread.unused tid) = s.threads := by
    rw [← (List.getElem?_eq_some_iff.mp slot).2, List.set_getElem_self]
  simp [terminate, other, thread, Thread.isUnused, Thread.fresh, Thread.release,
    Checked.set_eq_ok, inside, removed, waiting, restored]

end Spawning

/-- Spawning and ending are inverse. In every state of a disciplined run a spawn that succeeds takes
the least number that nobody has, fills its slot with a fresh record, queues it last and touches
nothing else; to end the thread at once gives the state back. The record is the same whatever
happened before. -/
theorem spawn_terminate_inverse (capacity : Nat) (one : 1 ≤ capacity) (fits : capacity < 2 ^ 60)
    (prime : Tid → Stack → Option κ) :
    ∃ start : Bench κ, Bench.new capacity = .ok start ∧
      ∀ steps b, Run prime start steps b → ∀ entry size map prime' tid s',
        b.scheduler.spawn entry size map prime' = .ok (.ok tid, s') →
          (1 ≤ tid ∧ b.scheduler.state? tid = some .unused ∧
            (∀ i, 1 ≤ i → i < tid → b.scheduler.state? i ≠ some .unused) ∧
            b.scheduler.thread tid = .error (.invalidTid tid)) ∧
          (∃ program stack, entry = some program ∧ Stack.request map size = .ok (.ok stack) ∧
            s' =
              { b.scheduler with
                threads := b.scheduler.threads.set tid
                  { tid
                    state := .ready
                    context := prime' tid stack
                    stack := some stack
                    entry := some program
                    quanta := 0
                    wakeAt := 0 }
                ready := s'.ready } ∧
            s'.ready.toList = b.scheduler.ready.toList ++ [tid] ∧
            ∃ ready, s'.terminate tid =
                .ok (.ok (.removed (some stack)), { b.scheduler with ready }) ∧
              ready.toList = b.scheduler.ready.toList) ∧
          ∀ past steps' b' s'', Run past start steps' b' →
            b'.scheduler.spawn entry size map prime' = .ok (.ok tid, s'') →
            s''.threads[tid]? = s'.threads[tid]? := by
  obtain ⟨start, new, fresh, _⟩ := new_settled one fits
  refine ⟨start, new, fun steps b run entry size map prime' tid s' spawned => ?_⟩
  have settled := run.settled fresh
  obtain ⟨program, stack, rfl, asked, first, vacant, least, made, ring⟩ :=
    settled.coherent.spawned spawned
  have other := Nat.one_le_iff_ne_zero.mp first
  have main : 1 ≤ b.scheduler.threads.length := Nat.zero_lt_of_lt settled.coherent.current_lt
  refine ⟨⟨first, vacant, least, (thread_eq_error_iff main).mpr ⟨⟨other, .inr vacant⟩, rfl⟩⟩,
    ⟨program, stack, rfl, asked, made, ring.toList_eq, ?_⟩, ?_⟩
  · rw [made]
    exact settled.terminate_fresh (run.clean fresh (new_clean new)) other vacant ring program stack _
  · intro past steps' b' s'' run' again
    rw [settled.coherent.fresh_slot spawned asked,
      (run'.settled fresh).coherent.fresh_slot again asked]

/-- One life after another at number 1: the first thread is ended while it is queued, runs, is
blocked, sleeps, or sleeps and is blocked. The second is the same each time. -/
theorem spawn_terminate_inverse_lives :
    ∃ start : Bench Unit, 1 ≤ 2 ∧ 2 < 2 ^ 60 ∧ Bench.new 2 = .ok start ∧
      ∀ life ∈ [[.terminate 1], [.schedule, .terminate 1], [.block 1, .terminate 1],
          [.schedule, .sleep 5, .terminate 1], [.schedule, .sleep 5, .block 1, .terminate 1]],
        ∃ (steps : List (Step Unit)) (b : Bench Unit) (s' : Scheduler Unit),
          perform (fun _ _ => none) 2 (.spawn (some 6) 4096 (mapAt 65536) :: life) =
              .ok (steps, b) ∧
            Run (fun _ _ => none) start steps b ∧
            b.scheduler.spawn (some 7) 4096 (mapAt 131072) (fun _ _ => some ()) =
              .ok (.ok 1, s') ∧
            s'.threads[1]? = some ⟨1, .ready, some (), some ⟨131072, 8192⟩, some 7, 0, 0⟩ ∧
            ∃ ready, s'.terminate 1 =
                .ok (.ok (.removed (some ⟨131072, 8192⟩)), { b.scheduler with ready }) ∧
              ready.toList = [] := by
  obtain ⟨start, new, all⟩ :=
    spawn_terminate_inverse (κ := Unit) 2 (by decide) (by decide) fun _ _ => none
  refine ⟨start, by decide, by decide, new, fun life member => ?_⟩
  obtain ⟨steps, b, s', ordinary, performed, spawned, slot, queue⟩ :
      ∃ (steps : List (Step Unit)) (b : Bench Unit) (s' : Scheduler Unit),
        (∀ op ∈ Op.spawn (some 6) 4096 (mapAt 65536) :: life, op.isOrdinary) ∧
          perform (fun _ _ => none) 2 (.spawn (some 6) 4096 (mapAt 65536) :: life) =
            .ok (steps, b) ∧
          b.scheduler.spawn (some 7) 4096 (mapAt 131072) (fun _ _ => some ()) = .ok (.ok 1, s') ∧
          s'.threads[1]? = some ⟨1, .ready, some (), some ⟨131072, 8192⟩, some 7, 0, 0⟩ ∧
          b.scheduler.ready.toList = [] := by
    simp only [List.mem_cons, List.not_mem_nil, or_false] at member
    rcases member with rfl | rfl | rfl | rfl | rfl <;>
      exact ⟨_, _, _, by decide, rfl, rfl, rfl, rfl⟩
  have run := perform_run new _ ordinary performed
  obtain ⟨_, ⟨program, stack, _, asked, _, _, ready, ended, same⟩, _⟩ :=
    all steps b run _ _ _ _ _ _ spawned
  obtain rfl : ⟨131072, 8192⟩ = stack := Except.ok.inj (Except.ok.inj asked)
  exact ⟨steps, b, s', performed, run, spawned, slot, ready, ended, same.trans queue⟩

end RoundRobin.Scheduler
