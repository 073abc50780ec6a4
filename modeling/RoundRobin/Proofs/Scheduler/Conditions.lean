import RoundRobin.Proofs.Scheduler.Discipline
import Mathlib.Logic.Function.Basic

/-!
# Asleep and blocked are independent

A caller can follow each thread from outside, by what it asks and what it is answered: whether the
thread is alive, until when it sleeps, and whether it is blocked. `history` keeps these records and
never looks at a slot. In every disciplined run the state of a slot is what its record says, in
whatever order deadlines pass and blocks are set and lifted.
-/

namespace RoundRobin.Scheduler

variable {κ : Type}

/-- What is known of a thread from the outside. -/
structure Conditions where
  live : Bool
  /-- End of the sleep that the thread is in. -/
  deadline : Option Nat
  blocked : Bool
  deriving DecidableEq, Repr

namespace Conditions

def asleep (c : Conditions) : Bool := c.deadline.isSome

def fresh : Conditions := ⟨true, none, false⟩

def gone : Conditions := ⟨false, none, false⟩

/-- A decision made at `now` ends the sleeps whose deadline is reached. -/
def lapse (now : Nat) (c : Conditions) : Conditions :=
  { c with deadline := c.deadline.filter fun d => now < d }

/-- What a slot says of its thread: one state stands for the three facts. -/
def ofThread (t : Thread κ) : Conditions :=
  match t.state with
  | .unused => gone
  | .running | .ready => fresh
  | .blocked => ⟨true, none, true⟩
  | .sleeping => ⟨true, some t.wakeAt, false⟩
  | .sleepBlocked => ⟨true, some t.wakeAt, true⟩

/-- Of a slot in order, a recorded sleep lapses exactly when the slot is due. -/
theorem lapse_ofThread {t : Thread κ} (slot : t.wakeAt ≠ 0 ↔ t.state.isSleeping) (now : Nat) :
    (ofThread t).lapse now = ofThread (t.expired now) := by
  by_cases due : t.isDue now
  · have reached := ((t.isDue_iff now).mp due).2.1
    rcases Thread.asleep_of_due due with h | h
    · simp [Thread.expired_of_sleeping due h, ofThread, lapse, fresh, h, reached]
    · simp [Thread.expired_of_sleepBlocked due h, ofThread, lapse, h, reached]
  · have early : t.state.isSleeping → now < t.wakeAt := fun asleep =>
      Thread.lt_wakeAt_of_not_due due (slot.mpr asleep) asleep
    rw [Thread.expired_of_not_due due]
    cases h : t.state with
    | sleeping | sleepBlocked => simp [ofThread, lapse, h, early]
    | running | ready | blocked | unused => simp [ofThread, lapse, h, fresh, gone]

end Conditions

def observe (records : Tid → Conditions) (s : Scheduler κ) : Op → Answer → Tid → Conditions
  | .spawn .., .spawned tid => Function.update records tid .fresh
  | .schedule, .switched _ => fun i => (records i).lapse s.total
  | .block tid, .suspension _ =>
    Function.update records tid { records tid with blocked := true }
  | .resume tid, .done => Function.update records tid { records tid with blocked := false }
  | .sleep quanta, .suspension _ =>
    Function.update records s.current
      { records s.current with deadline := some (addSaturating s.total quanta) }
  | .terminate tid, .ended (.removed _) | .terminate tid, .ended .ownEnd =>
    Function.update records tid .gone
  | _, _ => records

/-- The records after a step: the operation first, then the decision it called for. -/
def Step.record (records : Tid → Conditions) (step : Step κ) : Tid → Conditions :=
  let observed := observe records step.before.scheduler step.op step.answer
  match step.decision with
  | some _ => fun i => (observed i).lapse step.middle.scheduler.total
  | none => observed

def noHistory : Tid → Conditions := Function.update (fun _ => .gone) 0 .fresh

def history (steps : List (Step κ)) : Tid → Conditions := steps.foldl Step.record noHistory

/-- Every slot is as its record says, and nobody lives outside the table. -/
def Reflects (records : Tid → Conditions) (s : Scheduler κ) : Prop :=
  ∀ i : Tid, records i = s.threads[i]?.elim .gone .ofThread

variable {s s' : Scheduler κ} {records : Tid → Conditions} {b b' : Bench κ}
  {prime : Tid → Stack → Option κ} {step : Step κ} {steps : List (Step κ)}

namespace Reflects

theorem record_eq (reflects : Reflects records s) {i : Tid} {t : Thread κ}
    (slot : s.threads[i]? = some t) : records i = .ofThread t := by
  rw [reflects i, slot, Option.elim_some]

theorem update (reflects : Reflects records s) {i : Tid} {t : Thread κ} {queue : List Tid}
    {c : Conditions} (up : s.Update i t queue s') (fits : c = .ofThread t) :
    Reflects (Function.update records i c) s' := by
  intro j
  by_cases same : j = i
  · subst j
    rw [Function.update_self, up.here, Option.elim_some, fits]
  · rw [Function.update_of_ne same, up.elsewhere same]
    exact reflects j

/-- A record that is written again as it is. -/
theorem keep (reflects : Reflects records s) {i : Tid} {c : Conditions} (same : c = records i) :
    Reflects (Function.update records i c) s := by
  rwa [same, Function.update_eq_self]

/-- Expiry ends the recorded sleeps exactly where it wakes a slot. Requeueing and picking change
nothing that is recorded. -/
theorem decide {switch : Switch} (reflects : Reflects records s) (coh : s.Coherent)
    (dec : s.Decision switch s') : Reflects (fun i => (records i).lapse s.total) s' := by
  intro i
  cases slot : s.threads[i]? with
  | none => simp [reflects i, slot, dec.slots, Conditions.lapse, Conditions.gone]
  | some t =>
    obtain ⟨u, at_i, turned⟩ := dec.slot_cases coh slot
    have order := (coh.slots i t slot).deadline
    simp only [reflects.record_eq slot, at_i, Option.elim_some, Conditions.lapse_ofThread order]
    have awake : ¬ t.state.isSleeping → t.expired s.total = t := fun h =>
      Thread.expired_of_not_due fun due => h ((t.isDue_iff s.total).mp due).2.2
    cases turned with
    | picked here waited =>
      rcases waited with h | ⟨due, h⟩ | h
      · rw [awake (by simp [h])]
        simp [Conditions.ofThread, h]
      · rw [Thread.expired_of_sleeping due h]
        simp [Conditions.ofThread]
      · rw [awake (by simp [h])]
        simp [Conditions.ofThread, h]
    | requeued other running =>
      rw [awake (by simp [running])]
      simp [Conditions.ofThread, running]
    | woken other due asleep => rw [Thread.expired_of_sleeping due asleep]
    | heldBack other due asleep => rw [Thread.expired_of_sleepBlocked due asleep]
    | untouched other resting early => rw [Thread.expired_of_not_due early]

/-- What an operation does to its slot is what its answer lets a caller record. -/
theorem observe {op : Op} {answer : Answer} (reflects : Reflects records s) (coh : s.Coherent)
    (effect : s.Effect op answer s') : Reflects (observe records s op answer) s' := by
  cases effect with
  | refused e asked => cases op <;> exact reflects
  | admitted program stack context spawned spare unused up =>
    exact reflects.update up rfl
  | decided dec parked => exact reflects.decide coh dec
  | blockedAgain slot blocked =>
    exact reflects.keep (by simp [reflects.record_eq slot, Conditions.ofThread, blocked])
  | blockedAsleep slot spawned asleep up =>
    refine reflects.update up ?_
    rcases (ThreadState.isSleeping_iff _).mp asleep with h | h
    · simp [reflects.record_eq slot, Conditions.ofThread, h]
    · simp [reflects.record_eq slot, Conditions.ofThread, h]
  | blockedReady slot spawned h up | blockedRunning slot spawned h up =>
    refine reflects.update up ?_
    simp [reflects.record_eq slot, Conditions.ofThread, h, Conditions.fresh]
  | resumedBlocked slot h up | resumedAsleep slot h up =>
    refine reflects.update up ?_
    simp [reflects.record_eq slot, Conditions.ofThread, h, Conditions.fresh]
  | resumedIdle slot free =>
    refine reflects.keep ?_
    rw [reflects.record_eq slot, Conditions.ofThread]
    split <;> simp_all [Conditions.fresh, Conditions.gone]
  | slept slot spawned running positive up =>
    refine reflects.update up ?_
    simp [reflects.record_eq slot, Conditions.ofThread, running, Thread.putToSleep,
      Conditions.fresh]
  | endedMain => exact reflects
  | endedOther slot spawned used other up =>
    exact reflects.update up rfl
  | endedSelf slot spawned running up =>
    have blank : Reflects (Function.update records s.current .gone) _ := reflects.update up rfl
    exact blank

/-- A step keeps the records right. -/
theorem record (valid : step.Valid prime) (start : step.before.scheduler.Settled)
    (reflects : Reflects records step.before.scheduler) :
    Reflects (step.record records) step.after.scheduler := by
  cases valid.course start with
  | quiet _ effect _ _ decision =>
    simp only [Step.record, decision]
    exact reflects.observe start.coherent effect
  | ticked switch asked answer dec _ _ decision =>
    simp only [Step.record, decision, asked, answer]
    exact reflects.decide start.coherent dec
  | yielded switch effect _ dec _ decision =>
    simp only [Step.record, decision]
    exact (reflects.observe start.coherent effect).decide (effect.coherent start.coherent) dec

/-- The records of a run, begun with records that are right. -/
theorem run (r : Run prime b steps b') (start : b.scheduler.Settled)
    (reflects : Reflects records b.scheduler) :
    Reflects (steps.foldl Step.record records) b'.scheduler := by
  induction r generalizing records with
  | stop b => exact reflects
  | step valid rest ih => exact ih (valid.settled_after start) (record valid start reflects)

theorem new {capacity : Nat} (created : Bench.new capacity = .ok b)
    (start : b.scheduler.Settled) : Reflects noHistory b.scheduler := by
  intro i
  cases slot : b.scheduler.threads[i]? with
  | none =>
    have outside := List.getElem?_eq_none_iff.mp slot
    have inside := start.coherent.current_lt
    have other : i ≠ 0 := by
      rintro rfl
      exact Nat.not_lt_zero _ (Nat.lt_of_lt_of_le inside outside)
    rw [noHistory, Function.update_of_ne other, Option.elim_none]
  | some t =>
    rw [new_slots created slot, Option.elim_some]
    by_cases first : i = 0
    · subst first
      rfl
    · rw [if_neg first, noHistory, Function.update_of_ne first]
      rfl

end Reflects

theorem stateOf_eq_ok {tid : Tid} (spawned : tid ≠ 0) {st : ThreadState} :
    s.stateOf tid = .ok st ↔ s.state? tid = some st ∧ st ≠ .unused := by
  cases slot : s.threads[tid]? with
  | none => simp [stateOf, thread, state?, slot, Except.map]
  | some t =>
    by_cases unused : t.state = .unused
    · have hidden : t.state = st → st = .unused := fun same => same ▸ unused
      simpa [stateOf, thread, state?, slot, spawned, Thread.isUnused, unused, Except.map]
        using hidden
    · have seen : t.state = st → st ≠ .unused := fun same => same ▸ unused
      simpa [stateOf, thread, state?, slot, Thread.isUnused, unused, Except.map] using seen

/-- The state that a caller sees of a spawned thread says, for the thread's own records, whether it
is asleep and whether it is blocked, and nothing else. Every decision goes to a live thread that is
neither. -/
theorem asleep_blocked_independent (capacity : Nat) (one : 1 ≤ capacity) (fits : capacity < 2 ^ 60)
    (prime : Tid → Stack → Option κ) :
    ∃ start : Bench κ, Bench.new capacity = .ok start ∧
      ∀ steps b, Run prime start steps b →
        (∀ tid, tid ≠ 0 →
          let known := history steps tid
          (known.live ↔ ∃ st, b.scheduler.stateOf tid = .ok st) ∧
          (b.scheduler.stateOf tid = .ok .sleeping ↔
            known.live ∧ known.asleep ∧ ¬ known.blocked) ∧
          (b.scheduler.stateOf tid = .ok .sleepBlocked ↔
            known.live ∧ known.asleep ∧ known.blocked) ∧
          (b.scheduler.stateOf tid = .ok .blocked ↔
            known.live ∧ ¬ known.asleep ∧ known.blocked) ∧
          (b.scheduler.stateOf tid = .ok .ready ∨ b.scheduler.stateOf tid = .ok .running ↔
            known.live ∧ ¬ known.asleep ∧ ¬ known.blocked)) ∧
        ∀ xs step ys, steps = xs ++ step :: ys →
          (step.dispatched?.isSome ↔ step.op = .schedule ∨ step.answer.callsForDecision) ∧
          ∀ tid, step.dispatched? = some tid →
            let known := history (xs ++ [step]) tid
            step.after.scheduler.current = tid ∧
              known.live ∧ ¬ known.asleep ∧ ¬ known.blocked := by
  obtain ⟨start, new, settled, _⟩ := new_settled one fits
  have initial := Reflects.new new settled
  refine ⟨start, new, fun steps b run => ⟨fun tid spawned => ?_, ?_⟩⟩
  · have record : history steps tid = _ := Reflects.run run settled initial tid
    simp only [record, stateOf_eq_ok spawned, state?]
    cases b.scheduler.threads[tid]? with
    | none => simp [Conditions.gone]
    | some t =>
      cases h : t.state <;>
        simp [Conditions.ofThread, h, Conditions.gone, Conditions.fresh, Conditions.asleep]
  · rintro xs step ys rfl
    obtain ⟨m, first, last⟩ := Run.append_iff.mp run
    cases last with
    | step valid rest =>
      have here := first.settled settled
      refine ⟨valid.dispatched?_isSome_iff here, fun tid sent => ?_⟩
      obtain ⟨current, running⟩ := valid.dispatched here sent
      have through : Run prime start (xs ++ [step]) step.after :=
        Run.append_iff.mpr ⟨_, first, .step valid (.stop _)⟩
      obtain ⟨t, slot, state⟩ := state?_eq_some.mp running
      have record : history (xs ++ [step]) tid = _ :=
        (Reflects.run through settled initial).record_eq slot
      rw [record]
      simp [current, Conditions.ofThread, state, Conditions.fresh, Conditions.asleep]

/-- A sleeper is blocked, outlasts its deadline so, and is freed: asleep and blocked at once, and in
the end neither. -/
theorem asleep_blocked_independent_session :
    ∃ (start : Bench Unit) (xs ys : List (Step Unit)) (m b : Bench Unit),
      1 ≤ 3 ∧ 3 < 2 ^ 60 ∧ Bench.new 3 = .ok start ∧
        Run (fun _ _ => none) start xs m ∧ history xs 1 = ⟨true, some 4, true⟩ ∧
        m.scheduler.stateOf 1 = .ok .sleepBlocked ∧
        Run (fun _ _ => none) m ys b ∧ history (xs ++ ys) 1 = ⟨true, none, false⟩ ∧
        (b.scheduler.stateOf 1 = .ok .ready ∨ b.scheduler.stateOf 1 = .ok .running) := by
  obtain ⟨start, new, all⟩ :=
    asleep_blocked_independent (κ := Unit) 3 (by decide) (by decide) fun _ _ => none
  obtain ⟨xs, m, performed, held, ys, b, traced, freed⟩ :
    ∃ (xs : List (Step Unit)) (m : Bench Unit),
      perform (fun _ _ => none) 3
          [.spawn (some 7) 4096 (mapAt 65536), .schedule, .sleep 2, .block 1] = .ok (xs, m) ∧
        history xs 1 = ⟨true, some 4, true⟩ ∧ ∃ ys b,
        trace (fun _ _ => none) m [.schedule, .schedule, .resume 1] = .ok (ys, b) ∧
        history (xs ++ ys) 1 = ⟨true, none, false⟩ :=
    ⟨_, _, rfl, rfl, _, _, rfl, rfl⟩
  have first := perform_run new _ (by decide) performed
  have second := trace_run _ (by decide) traced
  obtain ⟨_, _, sleepBlocked, _⟩ := (all xs m first).1 1 (by decide)
  obtain ⟨_, _, _, _, runnable⟩ :=
    (all (xs ++ ys) b (Run.append_iff.mpr ⟨m, first, second⟩)).1 1 (by decide)
  exact ⟨start, xs, ys, m, b, by decide, by decide, new, first, held,
    sleepBlocked.mpr (by rw [held]; decide), second, freed, runnable.mpr (by rw [freed]; decide)⟩

end RoundRobin.Scheduler
