import RoundRobin.Proofs.Scheduler.Discipline

/-!
# A sleep lasts as long as was asked

A deadline is a value of the counter, and the counter goes up by one with each decision. No deadline
of a sleeper lies behind the counter, so a sleeper is woken by the very decision that is made at its
deadline. Blocking and resuming a sleeper, and whatever others do, leave the deadline alone.
-/

namespace RoundRobin.Scheduler

variable {κ : Type}

def Asleep (s : Scheduler κ) (tid : Tid) : Prop :=
  s.state? tid = some .sleeping ∨ s.state? tid = some .sleepBlocked

def AsleepUntil (s : Scheduler κ) (tid : Tid) (deadline : Nat) : Prop :=
  ∃ t, s.threads[tid]? = some t ∧ t.state.isSleeping ∧ t.wakeAt = deadline

/-- The counter is a word, and no deadline of a sleeper lies behind it. -/
structure Punctual (s : Scheduler κ) : Prop where
  inWord : s.total ≤ wordMax
  deadlines : ∀ (i : Tid) (t : Thread κ), s.threads[i]? = some t → t.state.isSleeping →
    s.total ≤ t.wakeAt

variable {s s' : Scheduler κ} {b b' : Bench κ} {prime : Tid → Stack → Option κ} {step : Step κ}
  {steps : List (Step κ)} {tid : Tid} {deadline : Nat}

theorem AsleepUntil.asleep (asleep : s.AsleepUntil tid deadline) : s.Asleep tid := by
  obtain ⟨t, slot, sleeping, _⟩ := asleep
  simpa [Asleep, state?, slot] using sleeping

section

variable {i : Tid} {old new : Thread κ} {queue : List Tid}

theorem AsleepUntil.elsewhere (asleep : s.AsleepUntil tid deadline)
    (up : s.Update i new queue s') (ne : tid ≠ i) : s'.AsleepUntil tid deadline := by
  rw [AsleepUntil, up.elsewhere ne]
  exact asleep

/-- The slot of somebody who is awake is another slot. -/
theorem AsleepUntil.frame (asleep : s.AsleepUntil tid deadline) (up : s.Update i new queue s')
    (slot : s.threads[i]? = some old) (awake : ¬ old.state.isSleeping) :
    s'.AsleepUntil tid deadline := by
  refine asleep.elsewhere up ?_
  rintro rfl
  obtain ⟨t, at_tid, sleeping, _⟩ := asleep
  exact awake (Option.some.inj (at_tid.symm.trans slot) ▸ sleeping)

/-- The sleeper's own slot may change, but not its deadline. -/
theorem AsleepUntil.keep (asleep : s.AsleepUntil tid deadline) (up : s.Update i new queue s')
    (slot : s.threads[i]? = some old) (sleeping : new.state.isSleeping)
    (kept : new.wakeAt = old.wakeAt) : s'.AsleepUntil tid deadline := by
  by_cases same : tid = i
  · subst same
    obtain ⟨t, at_tid, _, rfl⟩ := asleep
    obtain rfl : t = old := Option.some.inj (at_tid.symm.trans slot)
    exact ⟨new, up.here, sleeping, kept⟩
  · exact asleep.elsewhere up same

end

theorem Punctual.update {i : Tid} {t : Thread κ} {queue : List Tid} (punctual : s.Punctual)
    (up : s.Update i t queue s') (ahead : t.state.isSleeping → s.total ≤ t.wakeAt) :
    s'.Punctual := by
  refine ⟨up.total ▸ punctual.inWord, fun j u at_j asleep => ?_⟩
  rw [up.total]
  by_cases same : j = i
  · subst j
    rw [up.here] at at_j
    exact Option.some.inj at_j ▸ ahead (Option.some.inj at_j ▸ asleep)
  · rw [up.elsewhere same] at at_j
    exact punctual.deadlines j u at_j asleep

/-- A thread that is due is due now. -/
theorem Punctual.due_now (punctual : s.Punctual) {t : Thread κ} (mem : t ∈ s.threads)
    (due : t.isDue s.total) : t.wakeAt = s.total := by
  obtain ⟨i, slot⟩ := List.getElem?_of_mem mem
  obtain ⟨_, reached, asleep⟩ := (t.isDue_iff s.total).mp due
  exact Nat.le_antisymm reached (punctual.deadlines i t slot asleep)

theorem addSaturating_eq {a b : Nat} (inWord : a + b ≤ wordMax) : addSaturating a b = a + b :=
  Nat.min_eq_left inWord

theorem le_addSaturating {a b : Nat} (inWord : a ≤ wordMax) : a ≤ addSaturating a b := by
  unfold addSaturating
  omega

namespace Decision

variable {switch : Switch}

theorem punctual (dec : s.Decision switch s') (coh : s.Coherent) : s'.Punctual := by
  refine ⟨dec.total ▸ dec.inWord, fun i u at_i asleep => ?_⟩
  obtain ⟨t, at_t, turned⟩ := dec.slot_turned coh at_i
  cases turned with
  | picked | requeued | woken | heldBack => simp at asleep
  | untouched other resting early =>
    rw [dec.total]
    exact Thread.lt_wakeAt_of_not_due early ((coh.slots i _ at_t).deadline.mpr asleep) asleep

theorem asleep (dec : s.Decision switch s') (coh : s.Coherent)
    (asleep : s.AsleepUntil tid deadline) (early : s.total < deadline) :
    s'.AsleepUntil tid deadline := by
  obtain ⟨t, slot, sleeping, rfl⟩ := asleep
  have notDue : ¬ t.isDue s.total := fun due =>
    Nat.not_le_of_lt early ((t.isDue_iff s.total).mp due).2.1
  obtain ⟨u, at_u, turned⟩ := dec.slot_cases coh slot
  cases turned with
  | picked here waited => rcases waited with h | ⟨due, _⟩ | h <;> simp_all
  | requeued other running => simp [running] at sleeping
  | woken other due | heldBack other due => exact absurd due notDue
  | untouched => exact ⟨t, at_u, sleeping, rfl⟩

theorem wakes (dec : s.Decision switch s') (coh : s.Coherent)
    (asleep : s.AsleepUntil tid deadline) (late : deadline ≤ s.total) : ¬ s'.Asleep tid := by
  obtain ⟨t, slot, sleeping, rfl⟩ := asleep
  have due : t.isDue s.total :=
    (t.isDue_iff s.total).mpr ⟨(coh.slots tid t slot).deadline.mpr sleeping, late, sleeping⟩
  obtain ⟨u, at_u, turned⟩ := dec.slot_cases coh slot
  cases turned with
  | picked | requeued | woken | heldBack => simp [Asleep, state?, at_u]
  | untouched other resting early => exact absurd due early

end Decision

namespace Effect

variable {op : Op} {answer : Answer}

theorem punctual (effect : s.Effect op answer s') (coh : s.Coherent) (old : s.Punctual) :
    s'.Punctual := by
  cases effect with
  | refused | blockedAgain | resumedIdle => exact old
  | endedMain => exact ⟨old.inWord, old.deadlines⟩
  | decided dec parked => exact dec.punctual coh
  | admitted _ _ _ _ _ _ up | blockedReady _ _ _ up | blockedRunning _ _ _ up
  | resumedBlocked _ _ up => exact old.update up (by simp)
  | blockedAsleep slot _ asleep up =>
    have later := old.deadlines _ _ slot asleep
    exact old.update up fun _ => later
  | resumedAsleep slot asleep up =>
    have later := old.deadlines _ _ slot (by simp [asleep])
    exact old.update up fun _ => later
  | slept slot _ _ _ up => exact old.update up fun _ => le_addSaturating old.inWord
  | endedOther _ _ _ _ up => exact old.update up (by simp [Thread.unused])
  | endedSelf _ _ _ up =>
    have blank := old.update up (by simp [Thread.unused])
    exact ⟨blank.inWord, blank.deadlines⟩

/-- Short of its end, nothing that is no decision wakes a sleeper or moves its deadline. -/
theorem asleep (effect : s.Effect op answer s') (asked : op ≠ .schedule)
    (alive : op ≠ .terminate tid) (asleep : s.AsleepUntil tid deadline) :
    s'.AsleepUntil tid deadline := by
  cases effect with
  | refused | blockedAgain | resumedIdle | endedMain => exact asleep
  | decided => exact absurd rfl asked
  | admitted program stack context spawned spare unused up =>
    exact asleep.frame up spare (by simp [unused])
  | blockedAsleep slot spawned sleeping up => exact asleep.keep up slot (by simp) rfl
  | blockedReady slot spawned ready up => exact asleep.frame up slot (by simp [ready])
  | blockedRunning slot spawned running up => exact asleep.frame up slot (by simp [running])
  | resumedBlocked slot blocked up => exact asleep.frame up slot (by simp [blocked])
  | resumedAsleep slot sleeping up => exact asleep.keep up slot (by simp) rfl
  | slept slot spawned running positive up => exact asleep.frame up slot (by simp [running])
  | endedOther slot spawned used other up =>
    exact asleep.elsewhere up fun same => alive (by rw [same])
  | endedSelf slot spawned running up =>
    have next := asleep.frame up slot (by simp [running])
    exact next

end Effect

theorem Step.Valid.total_eq (valid : step.Valid prime) (start : step.before.scheduler.Settled) :
    step.after.scheduler.total = step.before.scheduler.total + step.dispatched?.toList.length := by
  cases valid.course start with
  | quiet asked effect _ _ _ nobody => simp [(effect.keeps asked).2, nobody]
  | ticked _ _ _ dec _ _ _ somebody => simp [dec.total, somebody]
  | yielded _ effect due dec _ _ somebody =>
    simp [dec.total, (effect.keeps (effect.not_schedule_of_due due)).2, somebody]

/-- The counter counts decisions. -/
theorem Run.total_eq (run : Run prime b steps b') (start : b.scheduler.Settled) :
    b'.scheduler.total = b.scheduler.total + (dispatches steps).length := by
  induction run with
  | stop b => rfl
  | step valid rest ih =>
    rw [ih (valid.settled_after start), valid.total_eq start, dispatches_cons, List.length_append,
      Nat.add_assoc]

theorem Step.Valid.punctual (valid : step.Valid prime) (start : step.before.scheduler.Settled)
    (old : step.before.scheduler.Punctual) :
    step.middle.scheduler.Punctual ∧ step.after.scheduler.Punctual := by
  cases valid.course start with
  | quiet _ effect _ same =>
    have next := effect.punctual start.coherent old
    exact ⟨same ▸ next, next⟩
  | ticked _ _ _ dec _ same =>
    have next := dec.punctual start.coherent
    exact ⟨same ▸ next, next⟩
  | yielded _ effect _ dec =>
    exact ⟨effect.punctual start.coherent old, dec.punctual (effect.coherent start.coherent)⟩

theorem Step.Valid.asleep (valid : step.Valid prime) (start : step.before.scheduler.Settled)
    (asleep : step.before.scheduler.AsleepUntil tid deadline) (alive : step.op ≠ .terminate tid)
    (early : step.dispatched?.isSome → step.before.scheduler.total < deadline) :
    step.after.scheduler.AsleepUntil tid deadline := by
  cases valid.course start with
  | quiet asked effect => exact effect.asleep asked alive asleep
  | ticked _ _ _ dec _ _ _ somebody =>
    exact dec.asleep start.coherent asleep (early (by simp [somebody]))
  | yielded _ effect due dec _ _ somebody =>
    have asked := effect.not_schedule_of_due due
    refine dec.asleep (effect.coherent start.coherent) (effect.asleep asked alive asleep) ?_
    rw [(effect.keeps asked).2]
    exact early (by simp [somebody])

theorem Step.Valid.wakes (valid : step.Valid prime) (start : step.before.scheduler.Settled)
    (asleep : step.before.scheduler.AsleepUntil tid deadline) (alive : step.op ≠ .terminate tid)
    (made : step.dispatched?.isSome) (late : deadline ≤ step.before.scheduler.total) :
    ¬ step.after.scheduler.Asleep tid := by
  cases valid.course start with
  | quiet _ _ _ _ _ nobody => simp [nobody] at made
  | ticked _ _ _ dec => exact dec.wakes start.coherent asleep late
  | yielded _ effect due dec =>
    have asked := effect.not_schedule_of_due due
    refine dec.wakes (effect.coherent start.coherent) (effect.asleep asked alive asleep) ?_
    rwa [(effect.keeps asked).2]

/-- A sleeper sleeps on through every run that makes no decision at its deadline. -/
theorem Run.asleep (run : Run prime b steps b') (start : b.scheduler.Settled)
    (asleep : b.scheduler.AsleepUntil tid deadline) (alive : ∀ x ∈ steps, x.op ≠ .terminate tid)
    (early : b'.scheduler.total ≤ deadline) : b'.scheduler.AsleepUntil tid deadline := by
  induction run with
  | stop b => exact asleep
  | @step step steps b valid rest ih =>
    have settled := valid.settled_after start
    refine ih settled ?_ (fun x hx => alive x (List.mem_cons_of_mem step hx)) early
    refine valid.asleep start asleep (alive step List.mem_cons_self) fun made => ?_
    obtain ⟨u, sent⟩ := Option.isSome_iff_exists.mp made
    have counted := rest.total_eq settled
    rw [valid.total_eq start, sent, Option.toList_some, List.length_singleton] at counted
    omega

theorem Run.punctual (run : Run prime b steps b') (start : b.scheduler.Settled)
    (old : b.scheduler.Punctual) :
    b'.scheduler.Punctual ∧
      ∀ step ∈ steps, step.before.scheduler.Punctual ∧ step.middle.scheduler.Punctual := by
  induction run with
  | stop b => exact ⟨old, by simp⟩
  | step valid rest ih =>
    obtain ⟨middle, after⟩ := valid.punctual start old
    obtain ⟨last, others⟩ := ih (valid.settled_after start) after
    exact ⟨last, List.forall_mem_cons.mpr ⟨⟨old, middle⟩, others⟩⟩

/-- The sleeper is still asleep after the decision that its own call brings about. -/
theorem Step.Valid.sleeps (valid : step.Valid prime) (start : step.before.scheduler.Settled)
    {n : Nat} (op : step.op = .sleep n) (positive : 1 ≤ n)
    (spawned : step.before.scheduler.current ≠ 0) :
    step.dispatched?.isSome ∧
      step.after.scheduler.AsleepUntil step.before.scheduler.current
        (addSaturating step.before.scheduler.total n) := by
  have answer : step.answer = .suspension .reschedule := by
    have applied := valid.applied
    rw [op] at applied
    obtain ⟨s', accepted, _⟩ := sleep_accepted start.coherent.formed spawned
      (Nat.ne_of_gt positive)
    exact congrArg Prod.fst (Except.ok.inj (applied.symm.trans accepted))
  cases valid.course start with
  | quiet _ _ idle => simp [answer, Answer.callsForDecision] at idle
  | ticked _ asked => simp [asked] at op
  | yielded switch effect due dec _ _ somebody =>
    have coherent := effect.coherent start.coherent
    have total := (effect.keeps (by simp [op])).2
    have later : step.middle.scheduler.total <
        addSaturating step.before.scheduler.total n := by
      have inWord := dec.inWord
      rw [total] at inWord ⊢
      unfold addSaturating
      omega
    refine ⟨by simp [somebody], dec.asleep coherent ?_ later⟩
    rw [op, answer] at effect
    cases effect with
    | slept slot _ _ _ up => exact ⟨_, up.here, by simp [Thread.putToSleep], rfl⟩

theorem Run.sleeps (run : Run prime b (step :: steps) b') (start : b.scheduler.Settled) {n : Nat}
    (op : step.op = .sleep n) (positive : 1 ≤ n) (spawned : b.scheduler.current ≠ 0)
    (alive : ∀ x ∈ steps, x.op ≠ .terminate b.scheduler.current)
    (early : b'.scheduler.total ≤ addSaturating b.scheduler.total n) :
    b'.scheduler.AsleepUntil b.scheduler.current (addSaturating b.scheduler.total n) := by
  cases run with
  | step valid rest =>
    obtain ⟨_, asleep⟩ := valid.sleeps start op positive spawned
    exact rest.asleep (valid.settled_after start) asleep alive early

theorem new_punctual {capacity : Nat} (new : Bench.new capacity = .ok b)
    (total : b.scheduler.total = 1) : b.scheduler.Punctual := by
  refine ⟨by rw [total]; decide, fun i t slot asleep => ?_⟩
  rw [new_slots new slot] at asleep
  by_cases first : i = 0
  · simp [first, Thread.markRunning] at asleep
  · simp [first, Thread.unused] at asleep

/-- No deadline of a sleeper lies behind the counter, and whoever is found due is due at this very
decision. So a thread that asks to sleep for `n` decisions sleeps through `n` of them, beginning
with the one that its call brings about, and the next one ends the sleep. A deadline past the last
counter value is never reached. -/
theorem sleep_lasts_exactly (capacity : Nat) (one : 1 ≤ capacity) (fits : capacity < 2 ^ 60)
    (prime : Tid → Stack → Option κ) :
    ∃ start : Bench κ, Bench.new capacity = .ok start ∧
      ∀ prior b, Run prime start prior b →
        (∀ (i : Tid) (t : Thread κ), b.scheduler.threads[i]? = some t →
          t.state = .sleeping ∨ t.state = .sleepBlocked → b.scheduler.total ≤ t.wakeAt) ∧
        (∀ step ∈ prior, ∀ s ∈ [step.before.scheduler, step.middle.scheduler],
          ∀ t ∈ s.threads, t.isDue s.total → t.wakeAt = s.total) ∧
        ∀ n step steps b', Run prime b (step :: steps) b' → step.op = .sleep n → 1 ≤ n →
          b.scheduler.current ≠ 0 →
          (∀ x ∈ steps, x.op ≠ .terminate b.scheduler.current) →
            step.dispatched?.isSome ∧
            (b.scheduler.total + n ≤ 2 ^ 64 - 2 →
              ((dispatches (step :: steps)).length ≤ n →
                b'.scheduler.Asleep b.scheduler.current) ∧
              ∀ xs last ys, step :: steps = xs ++ last :: ys → (dispatches xs).length = n →
                last.dispatched?.isSome →
                  last.before.scheduler.total = b.scheduler.total + n ∧
                  last.before.scheduler.Asleep b.scheduler.current ∧
                  ¬ last.after.scheduler.Asleep b.scheduler.current) ∧
            (2 ^ 64 - 1 ≤ b.scheduler.total + n →
              b'.scheduler.Asleep b.scheduler.current) := by
  obtain ⟨start, new, settled, _, total⟩ := new_settled one fits
  refine ⟨start, new, fun prior b reached => ?_⟩
  have here := reached.settled settled
  obtain ⟨punctual, before⟩ := reached.punctual settled (new_punctual new total)
  refine ⟨fun i t slot asleep => punctual.deadlines i t slot (by simpa using asleep), ?_, ?_⟩
  · intro step mem s either t slot due
    obtain ⟨first, second⟩ := before step mem
    rcases List.mem_pair.mp either with rfl | rfl
    · exact first.due_now slot due
    · exact second.due_now slot due
  · intro n step steps b' run op positive spawned alive
    have counted := run.total_eq here
    refine ⟨?_, fun inWord => ?_, fun past => ?_⟩
    · cases run with
      | step valid rest => exact (valid.sleeps here op positive spawned).1
    · have sum : addSaturating b.scheduler.total n = b.scheduler.total + n :=
        addSaturating_eq (by unfold wordMax; omega)
      refine ⟨fun few => (run.sleeps here op positive spawned alive (by omega)).asleep, ?_⟩
      intro xs last ys split count made
      rw [split] at run
      obtain ⟨m, first, second⟩ := Run.append_iff.mp run
      cases xs with
      | nil =>
        have none_made : 0 = n := count
        omega
      | cons x xs =>
        obtain ⟨rfl, rfl⟩ : step = x ∧ steps = xs ++ last :: ys := by simpa using split
        cases second with
        | step valid rest =>
          have reached : last.before.scheduler.total = b.scheduler.total + n := by
            rw [first.total_eq here, count]
          have asleep := first.sleeps here op positive spawned
            (fun x hx => alive x (List.mem_append_left _ hx)) (by omega)
          exact ⟨reached, asleep.asleep, valid.wakes (first.settled here) asleep
            (alive last (by simp)) made (by omega)⟩
    · have last : addSaturating b.scheduler.total n = wordMax :=
        Nat.min_eq_right (by unfold wordMax; omega)
      refine (run.sleeps here op positive spawned alive ?_).asleep
      rw [last]
      exact (run.punctual here punctual).1.inWord

/-- A sleep of two decisions, with a block and a resume in between. -/
theorem sleep_lasts_exactly_two :
    ∃ (start b b' : Bench Unit) (prior : List (Step Unit))
      (asks holds ticks frees wakes : Step Unit),
      1 ≤ 3 ∧ 3 < 2 ^ 60 ∧ Bench.new 3 = .ok start ∧ Run (fun _ _ => none) start prior b ∧
        Run (fun _ _ => none) b [asks, holds, ticks, frees, wakes] b' ∧ asks.op = .sleep 2 ∧
        b.scheduler.current = 1 ∧ b.scheduler.total = 2 ∧
        (∀ x ∈ [holds, ticks, frees, wakes], x.op ≠ .terminate 1) ∧
        wakes.before.scheduler.total = 4 ∧ wakes.before.scheduler.Asleep 1 ∧
        ¬ wakes.after.scheduler.Asleep 1 := by
  obtain ⟨start, new, all⟩ :=
    sleep_lasts_exactly (κ := Unit) 3 (by decide) (by decide) fun _ _ => none
  obtain ⟨prior, b, performed, current, total, asks, holds, ticks, frees, wakes, b', traced, op,
      alive, count, made⟩ :
    ∃ (prior : List (Step Unit)) (b : Bench Unit),
      perform (fun _ _ => none) 3 [.spawn (some 7) 4096 (mapAt 65536), .schedule] =
          .ok (prior, b) ∧
        b.scheduler.current = 1 ∧ b.scheduler.total = 2 ∧
        ∃ asks holds ticks frees wakes b',
          trace (fun _ _ => none) b [.sleep 2, .block 1, .schedule, .resume 1, .schedule] =
              .ok ([asks, holds, ticks, frees, wakes], b') ∧
            asks.op = .sleep 2 ∧ (∀ x ∈ [holds, ticks, frees, wakes], x.op ≠ .terminate 1) ∧
            (dispatches [asks, holds, ticks, frees]).length = 2 ∧ wakes.dispatched?.isSome :=
    ⟨_, _, rfl, rfl, rfl, _, _, _, _, _, _, rfl, rfl, by simp, rfl, rfl⟩
  have first := perform_run new _ (by decide) performed
  have second := trace_run _ (by decide) traced
  obtain ⟨_, _, lasts⟩ := all prior b first
  obtain ⟨_, lasting, _⟩ := lasts 2 asks [holds, ticks, frees, wakes] b' second op (by decide)
    (by simp [current]) (by simpa [current] using alive)
  obtain ⟨counted, asleep, awake⟩ :=
    (lasting (by simp [total])).2 [asks, holds, ticks, frees] wakes [] rfl count made
  rw [total] at counted
  rw [current] at asleep awake
  exact ⟨start, b, b', prior, asks, holds, ticks, frees, wakes, by decide, by decide, new, first,
    second, op, current, total, alive, counted, asleep, awake⟩

end RoundRobin.Scheduler
