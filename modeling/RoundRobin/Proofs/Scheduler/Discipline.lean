import RoundRobin.Proofs.Scheduler.Effect

/-!
# Disciplined runs

A disciplined run is a chain of steps. A step is one ordinary operation and, where the answer calls
for it, the decision that follows at once. The state after every step is settled, and therefore
sound: it passes its own check, and no operation on it can end in an abort.
-/

namespace RoundRobin.Scheduler

variable {κ : Type}

/-- One operation of a disciplined run. `middle` is the state between the operation and the decision
that the answer calls for, if it does. -/
structure Step (κ : Type) where
  before : Bench κ
  op : Op
  answer : Answer
  middle : Bench κ
  decision : Option (Switch × Option Stack)
  after : Bench κ

/-- The step is what `Bench.act` does, in its two halves. -/
structure Step.Valid (prime : Tid → Stack → Option κ) (step : Step κ) : Prop where
  ordinary : step.op.isOrdinary
  applied : step.before.apply prime step.op = .ok (step.answer, step.middle)
  settled : step.middle.settle step.answer = .ok (step.decision, step.after)

def Step.dispatched? (step : Step κ) : Option Tid :=
  match step.answer with
  | .switched switch => some switch.target
  | _ => step.decision.map fun (switch, _) => switch.target

def dispatches (steps : List (Step κ)) : List Tid := steps.filterMap Step.dispatched?

inductive Run (prime : Tid → Stack → Option κ) : Bench κ → List (Step κ) → Bench κ → Prop where
  | stop (b : Bench κ) : Run prime b [] b
  | step {step : Step κ} {steps : List (Step κ)} {b : Bench κ} (valid : step.Valid prime)
      (rest : Run prime step.after steps b) : Run prime step.before (step :: steps) b

/-- Performs operations as a disciplined caller does and keeps a record of the steps. -/
def trace (prime : Tid → Stack → Option κ) (b : Bench κ) :
    List Op → Except Halt (List (Step κ) × Bench κ)
  | [] => .ok ([], b)
  | op :: ops => do
    let (answer, middle) ← b.apply prime op
    let (decision, after) ← middle.settle answer
    let (steps, last) ← trace prime after ops
    return (⟨b, op, answer, middle, decision, after⟩ :: steps, last)

def perform (prime : Tid → Stack → Option κ) (capacity : Nat) (ops : List Op) :
    Except Halt (List (Step κ) × Bench κ) := do
  trace prime (← Bench.new capacity) ops

/-- What holds before and after every step. -/
structure Settled (s : Scheduler κ) : Prop where
  coherent : s.Coherent
  runs : s.state? s.current = some .running
  parked : s.parked = none

variable {b b' : Bench κ} {prime : Tid → Stack → Option κ} {step : Step κ} {steps : List (Step κ)}

theorem Settled.sound {s : Scheduler κ} (settled : s.Settled) : s.Sound :=
  settled.coherent.sound settled.runs settled.parked

theorem Decision.settled {s s' : Scheduler κ} {switch : Switch} (dec : s.Decision switch s')
    (coh : s.Coherent) (parked : s'.parked = none) : s'.Settled :=
  ⟨dec.coherent coh, dec.current ▸ dec.target_running coh, parked⟩

theorem Settled.current_not_queued {s : Scheduler κ} (settled : s.Settled) :
    s.current ∉ s.ready.toList := by
  intro queued
  have ready := (settled.coherent.queued_iff s.current).mp queued
  simp [settled.runs] at ready

theorem Run.append_iff {xs ys : List (Step κ)} :
    Run prime b (xs ++ ys) b' ↔ ∃ m, Run prime b xs m ∧ Run prime m ys b' := by
  induction xs generalizing b with
  | nil =>
    constructor
    · intro run
      exact ⟨b, .stop b, run⟩
    · rintro ⟨_, ⟨⟩, run⟩
      exact run
  | cons x xs ih =>
    constructor
    · intro run
      cases run with
      | step valid rest =>
        obtain ⟨m, first, last⟩ := ih.mp rest
        exact ⟨m, .step valid first, last⟩
    · rintro ⟨m, first, last⟩
      cases first with
      | step valid rest => exact .step valid (ih.mpr ⟨m, rest, last⟩)

theorem trace_run (ops : List Op) (ordinary : ∀ op ∈ ops, op.isOrdinary)
    (traced : trace prime b ops = .ok (steps, b')) : Run prime b steps b' := by
  induction ops generalizing b steps with
  | nil =>
    simp only [trace, Except.ok.injEq, Prod.mk.injEq] at traced
    obtain ⟨rfl, rfl⟩ := traced
    exact .stop b
  | cons op ops ih =>
    simp only [trace, bind_eq_ok, pure_eq_ok, Except.ok.injEq, Prod.mk.injEq,
      Prod.exists] at traced
    obtain ⟨answer, middle, applied, decision, after, settled, rest, last, traced, rfl, rfl⟩ :=
      traced
    have valid : Step.Valid prime ⟨b, op, answer, middle, decision, after⟩ :=
      ⟨ordinary op List.mem_cons_self, applied, settled⟩
    exact .step valid (ih (fun o ho => ordinary o (List.mem_cons_of_mem op ho)) traced)

theorem perform_run {capacity : Nat} {start : Bench κ} (new : Bench.new capacity = .ok start)
    (ops : List Op) (ordinary : ∀ op ∈ ops, op.isOrdinary)
    (performed : perform prime capacity ops = .ok (steps, b)) : Run prime start steps b := by
  rw [perform, new, ok_bind] at performed
  exact trace_run ops ordinary performed

theorem dispatches_cons (step : Step κ) (steps : List (Step κ)) :
    dispatches (step :: steps) = step.dispatched?.toList ++ dispatches steps := by
  cases sent : step.dispatched? <;> simp [dispatches, sent]

/-- A decision that is due is made and the parked stack taken; otherwise nothing happens. -/
theorem settle_cases {answer : Answer} {decision : Option (Switch × Option Stack)}
    (coh : b.scheduler.Coherent) (settled : b.settle answer = .ok (decision, b')) :
    (answer.callsForDecision = false ∧ decision = none ∧ b' = b) ∨
      (answer.callsForDecision = true ∧ ∃ switch, decision = some (switch, b.scheduler.parked) ∧
        b.scheduler.Decision switch b'.scheduler ∧ b'.scheduler.parked = none) := by
  cases due : answer.callsForDecision with
  | false =>
    simp only [Bench.settle, due, Bool.false_eq_true, if_false, Except.ok.injEq,
      Prod.mk.injEq] at settled
    exact .inl ⟨rfl, settled.1.symm, settled.2.symm⟩
  | true =>
    rcases coh.schedule_cases with ⟨switch, s', decided, dec, parked⟩ | ⟨_, fault⟩
    · simp only [Bench.settle, due, if_true, Bench.decide, decided, takeParked, ok_bind, pure_eq_ok,
        Except.ok.injEq, Prod.mk.injEq] at settled
      obtain ⟨rfl, rfl⟩ := settled
      refine .inr ⟨rfl, switch, by rw [parked], ?_, rfl⟩
      exact ⟨dec.source, dec.line, dec.slots, dec.ring, dec.current, dec.total, dec.inWord,
        dec.shutdown⟩
    · simp [Bench.settle, due, Bench.decide, fault] at settled

/-- The courses that a step can take: an operation alone, a decision that was asked for, or an
operation that calls for a decision. -/
inductive Step.Course (step : Step κ) : Prop where
  | quiet (asked : step.op ≠ .schedule)
      (effect : step.before.scheduler.Effect step.op step.answer step.after.scheduler)
      (idle : step.answer.callsForDecision = false) (same : step.middle = step.after)
      (decision : step.decision = none) (nobody : step.dispatched? = none)
  | ticked (switch : Switch) (asked : step.op = .schedule) (answer : step.answer = .switched switch)
      (dec : step.before.scheduler.Decision switch step.after.scheduler)
      (parked : step.after.scheduler.parked = step.before.scheduler.parked)
      (same : step.middle = step.after) (decision : step.decision = none)
      (somebody : step.dispatched? = some switch.target)
  | yielded (switch : Switch)
      (effect : step.before.scheduler.Effect step.op step.answer step.middle.scheduler)
      (due : step.answer.callsForDecision = true)
      (dec : step.middle.scheduler.Decision switch step.after.scheduler)
      (parked : step.after.scheduler.parked = none)
      (decision : step.decision = some (switch, step.middle.scheduler.parked))
      (somebody : step.dispatched? = some switch.target)

theorem Step.dispatched?_eq (other : ∀ switch, step.answer ≠ .switched switch) :
    step.dispatched? = step.decision.map fun (switch, _) => switch.target := by
  unfold dispatched?
  split
  · next switch answer => exact absurd answer (other switch)
  · rfl

/-- What was carried out on a settled state is one of the effects that can be. -/
theorem Settled.effect (settled : b.scheduler.Settled) {op : Op} {answer : Answer}
    (ordinary : op.isOrdinary) (applied : b.apply prime op = .ok (answer, b')) :
    b.scheduler.Effect op answer b'.scheduler := by
  rcases apply_cases settled.coherent settled.runs ordinary with
    ⟨answer', s', applied', effect⟩ | ⟨f, fault, _⟩
  · have same := applied.symm.trans applied'
    simp only [Except.ok.injEq, Prod.mk.injEq] at same
    rw [same.1, same.2]
    exact effect
  · exact absurd (applied.symm.trans fault) (by simp)

theorem Step.Valid.course (valid : step.Valid prime) (start : step.before.scheduler.Settled) :
    step.Course := by
  have effect := start.effect valid.ordinary valid.applied
  rcases settle_cases (effect.coherent start.coherent) valid.settled with
    ⟨idle, decision, same⟩ | ⟨due, switch, decision, dec, parked⟩
  · rw [← same] at effect
    by_cases asked : step.op = .schedule
    · obtain ⟨switch, answer, dec, parked⟩ := (asked ▸ effect).of_schedule
      exact .ticked switch asked answer dec parked same.symm decision
        (by simp [Step.dispatched?, answer])
    · refine .quiet asked effect idle same.symm decision ?_
      rw [Step.dispatched?_eq (effect.not_switched asked), decision, Option.map_none]
  · refine .yielded switch effect due dec parked decision ?_
    rw [Step.dispatched?_eq (effect.not_switched (effect.not_schedule_of_due due)), decision,
      Option.map_some]

theorem Step.Valid.settled_after (valid : step.Valid prime)
    (start : step.before.scheduler.Settled) : step.after.scheduler.Settled := by
  cases valid.course start with
  | quiet _ effect idle =>
    obtain ⟨runs, parked⟩ := effect.runs start.coherent start.runs idle
    exact ⟨effect.coherent start.coherent, runs, parked.trans start.parked⟩
  | ticked switch _ _ dec parked => exact dec.settled start.coherent (parked.trans start.parked)
  | yielded switch effect _ dec parked => exact dec.settled (effect.coherent start.coherent) parked

theorem Step.Valid.dispatched?_isSome_iff (valid : step.Valid prime)
    (start : step.before.scheduler.Settled) :
    step.dispatched?.isSome ↔ step.op = .schedule ∨ step.answer.callsForDecision := by
  cases valid.course start with
  | quiet asked _ idle _ _ nobody => simp [asked, idle, nobody]
  | ticked _ asked _ _ _ _ _ somebody => simp [asked, somebody]
  | yielded _ _ due _ _ _ somebody => simp [due, somebody]

theorem Step.Valid.dispatched (valid : step.Valid prime) (start : step.before.scheduler.Settled)
    {tid : Tid} (sent : step.dispatched? = some tid) :
    step.after.scheduler.current = tid ∧ step.after.scheduler.state? tid = some .running := by
  have goes : step.after.scheduler.current = tid := by
    cases valid.course start with
    | quiet _ _ _ _ _ nobody => simp [nobody] at sent
    | ticked switch _ _ dec _ _ _ somebody =>
      rw [dec.current]
      exact Option.some.inj (somebody.symm.trans sent)
    | yielded switch _ _ dec _ _ somebody =>
      rw [dec.current]
      exact Option.some.inj (somebody.symm.trans sent)
  exact ⟨goes, goes ▸ (valid.settled_after start).runs⟩

theorem Run.settled (run : Run prime b steps b') (start : b.scheduler.Settled) :
    b'.scheduler.Settled := by
  induction run with
  | stop b => exact start
  | step valid rest ih => exact ih (valid.settled_after start)

theorem Step.Valid.length_eq (valid : step.Valid prime) (start : step.before.scheduler.Settled) :
    step.after.scheduler.threads.length = step.before.scheduler.threads.length := by
  cases valid.course start with
  | quiet _ effect => exact effect.length_eq
  | ticked _ _ _ dec => exact dec.length_eq
  | yielded _ effect _ dec => rw [dec.length_eq, effect.length_eq]

theorem Run.length_eq (run : Run prime b steps b') (start : b.scheduler.Settled) :
    b'.scheduler.threads.length = b.scheduler.threads.length := by
  induction run with
  | stop b => rfl
  | step valid rest ih => rw [ih (valid.settled_after start), valid.length_eq start]

/-- The slots of a fresh table: the main thread runs its first turn, and the others are blank. -/
theorem new_slots {capacity : Nat} (new : Bench.new capacity = .ok b) {i : Tid} {t : Thread κ}
    (at_i : b.scheduler.threads[i]? = some t) :
    t = if i = 0 then (Thread.unused 0).markRunning else Thread.unused i := by
  simp only [Bench.new, Scheduler.new] at new
  split at new
  · simp at new
  · next main rest table =>
    have blank : ∀ (j : Tid) (u : Thread κ), (main :: rest)[j]? = some u → u = Thread.unused j := by
      intro j u at_j
      rw [← table] at at_j
      obtain ⟨_, rfl⟩ : j < capacity ∧ Thread.unused j = u := by
        simpa [List.getElem?_eq_some_iff] using at_j
      rfl
    simp only [ok_bind, pure_eq_ok, Except.ok.injEq] at new
    subst new
    cases i with
    | zero =>
      obtain rfl : main = Thread.unused 0 := blank 0 main rfl
      exact (Option.some.inj at_i).symm
    | succ i => exact blank (i + 1) t at_i

theorem new_settled {capacity : Nat} (one : 1 ≤ capacity) (fits : capacity < 2 ^ 60) :
    ∃ start : Bench κ, Bench.new capacity = .ok start ∧ start.scheduler.Settled ∧
      start.scheduler.threads.length = capacity ∧ start.scheduler.total = 1 := by
  obtain ⟨n, rfl⟩ : ∃ n, capacity = n + 1 := ⟨capacity - 1, by omega⟩
  let main : Thread κ := (Thread.unused 0).markRunning
  let others : List (Thread κ) := ((List.range n).map (· + 1)).map Thread.unused
  let start : Bench κ := ⟨⟨main :: others, .empty (n + 1), 0, 1, none, false⟩, none⟩
  have new : Bench.new (n + 1) = .ok start := by
    simp [Bench.new, Scheduler.new, List.range_succ_eq_map, start, main, others]
  have size : (main :: others).length = n + 1 := by simp [others]
  have ring := ReadyQueue.empty_holds fits
  have queue : start.scheduler.ready.toList = [] := ring.toList_eq
  refine ⟨start, new, ⟨?_, rfl, rfl⟩, size, rfl⟩
  refine ⟨by simp [start], ?_, by simp [queue], by simp [queue], ?_⟩
  · rw [queue, size]
    exact ring
  · intro i t at_i
    rw [queue, new_slots new at_i]
    by_cases first : i = 0
    · subst first
      exact
        { numbered := rfl
          running := fun _ => rfl
          queued := by simp [Thread.markRunning]
          deadline := by simp [Thread.markRunning, Thread.unused]
          blank := by simp [Thread.markRunning]
          stack := by simp
          entry := by simp
          main := fun _ => .inl rfl }
    · rw [if_neg first]
      exact unused_consistent first List.not_mem_nil

/-- A fresh scheduler is in order. -/
theorem new_scheduler {capacity : Nat} (one : 1 ≤ capacity) (fits : capacity < 2 ^ 60) :
    ∃ start : Scheduler κ, Scheduler.new capacity = .ok start ∧
      Bench.new capacity = .ok ⟨start, none⟩ ∧ start.Settled ∧
      start.threads.length = capacity ∧ start.total = 1 := by
  obtain ⟨bench, new, settled, size, total⟩ := new_settled (κ := κ) one fits
  obtain ⟨start, created, rfl⟩ :
      ∃ start, Scheduler.new capacity = .ok start ∧ ⟨start, none⟩ = bench := by
    simpa [Bench.new, bind_eq_ok] using new
  exact ⟨start, created, new, settled, size, total⟩

theorem new_fields {capacity : Nat} {start : Scheduler κ}
    (new : Scheduler.new capacity = .ok start) :
    start.current = 0 ∧ start.total = 1 ∧ start.shutdown = false := by
  unfold Scheduler.new at new
  split at new
  · simp at new
  · exact Except.ok.inj new ▸ ⟨rfl, rfl, rfl⟩

/-- An ordinary operation and its decision come to an answer, or a number leaves the words. -/
theorem act_cases (settled : b.scheduler.Settled) {op : Op} (ordinary : op.isOrdinary) :
    (∃ r b', b.act prime op = .ok (r, b')) ∨
      ∃ f, b.act prime op = .error (.fault f) ∧
        (wordMax ≤ b.scheduler.total ∨ op.Oversized) := by
  have applies : Answers b prime op ∨ _ := apply_cases settled.coherent settled.runs ordinary
  rcases applies with ⟨answer, s', applied, effect⟩ | ⟨f, fault, reason⟩
  · cases due : answer.callsForDecision with
    | false =>
      refine .inl ⟨(answer, none), { b with scheduler := s' }, ?_⟩
      simp [Bench.act, applied, Bench.settle, due]
    | true =>
      rcases (effect.coherent settled.coherent).schedule_cases with
        ⟨switch, s'', decided, _⟩ | ⟨full, fault⟩
      · refine .inl ⟨(answer, some (switch, s''.parked)),
          { b with scheduler := { s'' with parked := none } }, ?_⟩
        simp [Bench.act, applied, Bench.settle, due, Bench.decide, decided, takeParked]
      · refine .inr ⟨.addOverflow, ?_, .inl ?_⟩
        · simp [Bench.act, applied, Bench.settle, due, Bench.decide, fault]
        · rwa [(effect.keeps (effect.not_schedule_of_due due)).2] at full
  · exact .inr ⟨f, by simp [Bench.act, fault], reason.imp_left And.right⟩

/-- A disciplined caller who goes on from here meets no failing check and never makes the library
give up, and is answered while the numbers of an operation fit into words. -/
def Safe (prime : Tid → Stack → Option κ) (b : Bench κ) : Prop :=
  ∀ steps b', Run prime b steps b' →
    b'.scheduler.invariantsHold = .ok true ∧
    ∀ op : Op, op.isOrdinary →
      (∀ a, b'.act prime op ≠ .error (.abort a)) ∧
      (b'.scheduler.total < wordMax → ¬ op.Oversized → ∃ r b'', b'.act prime op = .ok (r, b''))

theorem Settled.safe (settled : b.scheduler.Settled) (prime : Tid → Stack → Option κ) :
    Safe prime b := by
  intro steps b' run
  have here := run.settled settled
  refine ⟨here.coherent.invariantsHold_eq here.runs, fun op ordinary => ?_⟩
  have acts : (∃ r b'', b'.act prime op = .ok (r, b'')) ∨ _ := act_cases here ordinary
  rcases acts with ⟨r, b'', done⟩ | ⟨f, fault, last | large⟩
  · exact ⟨fun a => by simp [done], fun _ _ => ⟨r, b'', done⟩⟩
  · exact ⟨fun a => by simp [fault], fun inWord => absurd last (Nat.not_le_of_lt inWord)⟩
  · exact ⟨fun a => by simp [fault], fun _ small => absurd large small⟩

/-- Every state of a disciplined run is sound and passes its own check. From it no ordinary
operation makes the library give up, so nobody is refused a place in the queue and no decision
finds the queue empty; and every one is answered while its numbers fit into words. -/
theorem disciplined_run_sound (capacity : Nat) (one : 1 ≤ capacity) (fits : capacity < 2 ^ 60)
    (prime : Tid → Stack → Option κ) :
    ∃ start : Bench κ, Bench.new capacity = .ok start ∧
      ∀ steps b, Run prime start steps b →
        b.scheduler.threads.length = capacity ∧ b.scheduler.Sound ∧
        b.scheduler.invariantsHold = .ok true ∧
        ∀ op : Op, op.isOrdinary →
          (∀ a, b.act prime op ≠ .error (.abort a)) ∧
          (b.scheduler.total < wordMax → ¬ op.Oversized →
            ∃ r b', b.act prime op = .ok (r, b')) := by
  obtain ⟨start, new, settled, size, _⟩ := new_settled one fits
  refine ⟨start, new, fun steps b run => ?_⟩
  have here := run.settled settled
  refine ⟨(run.length_eq settled).trans size, here.sound,
    here.coherent.invariantsHold_eq here.runs, fun op ordinary => ?_⟩
  have acts : (∃ r b', b.act prime op = .ok (r, b')) ∨ _ := act_cases here ordinary
  rcases acts with ⟨r, b', done⟩ | ⟨f, fault, reason⟩
  · exact ⟨fun a => by simp [done], fun _ _ => ⟨r, b', done⟩⟩
  · refine ⟨fun a => by simp [fault], fun inWord small => ?_⟩
    rcases reason with full | large
    · omega
    · exact absurd large small

/-- A thread is spawned, gets the processor and sleeps; a thread that is not there is to end. -/
theorem disciplined_run_sound_session :
    ∃ (start : Bench Unit) (steps : List (Step Unit)) (b : Bench Unit),
      1 ≤ 3 ∧ 3 < 2 ^ 60 ∧ Bench.new 3 = .ok start ∧ Run (fun _ _ => none) start steps b ∧
        b.scheduler.state? 1 = some .sleeping ∧ b.scheduler.total = 4 ∧ b.scheduler.Sound ∧
        b.scheduler.invariantsHold = .ok true := by
  obtain ⟨start, new, all⟩ :=
    disciplined_run_sound (κ := Unit) 3 (by decide) (by decide) fun _ _ => none
  obtain ⟨steps, b, performed, asleep, total⟩ : ∃ steps b,
      perform (fun _ _ => none) 3
          [.spawn (some 7) 4096 (mapAt 65536), .schedule, .sleep 5, .terminate 2, .schedule] =
        .ok (steps, b) ∧ b.scheduler.state? 1 = some .sleeping ∧ b.scheduler.total = 4 :=
    ⟨_, _, rfl, rfl, rfl⟩
  have run := perform_run new _ (by decide) performed
  obtain ⟨_, sound, checked, _⟩ := all steps b run
  exact ⟨start, steps, b, by decide, by decide, new, run, asleep, total, sound, checked⟩

end RoundRobin.Scheduler
