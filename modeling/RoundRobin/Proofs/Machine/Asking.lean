import RoundRobin.Proofs.Machine.Acts
import RoundRobin.Proofs.Scheduler.Yielding

/-!
# Asking the scheduler

A program that asks for something enters the library in one step, and in the next the scheduler
does it; so does a program that fires its timer. `wants` says what is asked for, and `Dispatched`
what has become of it. Only a number that leaves the words comes in between.
-/

namespace RoundRobin

open Scheduler (Op Bench Dispatch)

/-- Whether `current` gives up the processor by the request, of its own accord and with success. -/
def Request.yields (current : Tid) : Request → Bool
  | .block tid | .terminate tid => tid == current && current != 0
  | .sleep quanta => quanta != 0 && current != 0
  | _ => false

theorem Request.yields_iff {r : Request} {stackSize : Nat} {map : Nat → Except OsError Nat}
    {op : Op} (asked : r.op stackSize map = some op) (current : Tid) :
    r.yields current ↔ current ≠ 0 ∧
      (op = .block current ∨ op = .terminate current ∨
        ∃ quanta, quanta ≠ 0 ∧ op = .sleep quanta) := by
  cases r with
  | install | quantaOf | stateOf => simp [Request.op] at asked
  | _ =>
    obtain rfl := Option.some.inj asked
    simp [yields, and_comm]

namespace Machine

variable {A : Actor → Option Nat → Prop} {m : Machine} {d : Dispatcher Control} {op : Op}

/-- What the next act asks the library for. A thread whose program is over is to be ended. -/
def wants (m : Machine) : Option Request :=
  match m.act with
  | some (.instr (.call c)) => (c.map m.resolve).request
  | some .ending => some (.terminate (m.host.currentTid homeThread))
  | _ => none

def givesUp (m : Machine) : Bool := m.wants.any (Request.yields (m.host.currentTid homeThread))

/-- Whether the next act fires a timer that is armed. -/
def delivers (m : Machine) : Bool :=
  match m.act, m.host.dispatcher with
  | some (.instr .fire), some { timer := .manual t, .. } => t.isArmed
  | _, _ => false

theorem wants_of_silent (silent : m.act = none) : m.wants = none := by
  simp [wants, silent]

theorem Hosted.visible (hosted : Hosted A m d) : m.host.visible homeThread = some d := by
  simp [Host.visible, Host.refusal, hosted.owner, hosted.dispatcher]

theorem Hosted.currentTid (hosted : Hosted A m d) :
    m.host.currentTid homeThread = d.scheduler.current := by
  simp [Host.currentTid, hosted.visible, hosted.shownTid]

theorem Hosted.totalQuanta (hosted : Hosted A m d) :
    m.host.totalQuanta homeThread = d.scheduler.total := by
  simp [Host.totalQuanta, hosted.visible, hosted.shownTotal]

/-- A step that leaves the dispatcher where it is leaves it in charge. -/
theorem Hosted.stays (hosted : Hosted A m d) (live : m.step.ending = none)
    (same : m.step.host.dispatcher = m.host.dispatcher) : Hosted A m.step d := by
  have there : m.step.host.dispatcher = some d := same.trans hosted.dispatcher
  cases hosted.sequel with
  | ended gone => simp [live] at gone
  | hosted d' next =>
    obtain rfl := Option.some.inj (there.symm.trans next.dispatcher)
    exact next
  | handedOver d' handed =>
    obtain rfl := Option.some.inj (there.symm.trans handed.dispatcher)
    exact absurd handed.shutdown (by simp [hosted.shutdown])
  | leaving _ nobody => simp [there] at nobody

/-- The step into the library is the running thread's own. -/
theorem Hosted.entered (hosted : Hosted A m d) {c : Control}
    (entered : m.step =
      { m with host := { m.host with signal := m.host.signal.enter.2 }, control := c }) :
    Hosted A m.step d :=
  hosted.stays (by rw [entered]; exact hosted.live) (by rw [entered])

/-- A program that asks for something enters the library. -/
theorem Hosted.step_wants (hosted : Hosted A m d) {r : Request} (wants : m.wants = some r) :
    ∃ caller rest, m.step =
      { m with
        host := { m.host with signal := m.host.signal.enter.2 }
        control := .perform r ⟨m.masked⟩ caller :: rest } := by
  cases acts : m.act with
  | none => simp [Machine.wants, acts] at wants
  | some a =>
    obtain ⟨live, still, ⟨i, is, rest, control, rfl⟩ | ⟨_, _, _, _, _, rfl⟩ |
      ⟨generation, base, rest, control, rfl⟩⟩ := act_cases acts
    · cases i with
      | call c =>
        simp only [Machine.wants, acts] at wants
        exact ⟨_, _, step_request live still hosted.visible control wants⟩
      | _ => simp [Machine.wants, acts] at wants
    · simp [Machine.wants, acts] at wants
    · obtain ⟨t, slot, _, tenant⟩ := hosted.acts acts
      simp only [Machine.wants, acts, Option.some.injEq, hosted.currentTid] at wants
      subst wants
      rw [step_of_frame live still control, work, finishThread, hosted.dispatcher]
      dsimp only
      rw [control] at tenant
      rcases tenant.place with ⟨same, _⟩ | ⟨older, main⟩
      · rw [if_pos same, hosted.shownTid]
        exact ⟨.returning, rest, rfl⟩
      · rw [if_neg (Nat.ne_of_lt older), main]
        exact ⟨.adopted, rest, rfl⟩

/-- One step later its request is before the scheduler, and nothing else has happened. -/
theorem Hosted.inside (hosted : Hosted A m d) {r : Request} (wants : m.wants = some r) :
    Hosted A m.step d ∧
      (∃ guard caller rest, m.step.control = .perform r guard caller :: rest) ∧
      m.step.control.asks d.config.stackSize m.step.mapping =
        r.op d.config.stackSize m.step.mapping ∧
      m.step.host.unmapped = m.host.unmapped := by
  obtain ⟨caller, rest, entered⟩ := hosted.step_wants wants
  refine ⟨hosted.entered entered, ⟨⟨m.masked⟩, caller, rest, ?_⟩, ?_, ?_⟩ <;> rw [entered]
  rfl

/-- A program that fires an armed timer enters the library. -/
theorem step_delivers (delivers : m.delivers) :
    ∃ rest, m.step =
      { m with
        host := { m.host with signal := m.host.signal.enter.2 }
        control := .preempt ⟨m.masked⟩ :: rest } := by
  unfold Machine.delivers at delivers
  split at delivers
  · next acts dispatcher =>
    obtain ⟨live, still, is, rest, control⟩ := act_instr acts
    rw [step_of_frame live still control, work, execute, fire, dispatcher]
    dsimp only
    rw [if_pos delivers]
    exact ⟨.note .ticked (.fired true) :: .run is :: rest, rfl⟩
  · simp at delivers

/-- Whoever performs a request decides if it gives up the processor. -/
theorem Hosted.decides_perform (hosted : Hosted A m d) {r : Request} {guard : Guard}
    {caller : Caller} {rest : Control} (control : m.control = .perform r guard caller :: rest) :
    m.decides = r.yields d.scheduler.current := by
  simp only [decides, hosted.live, hosted.dispatcher, control]
  cases asked : r.op d.config.stackSize m.mapping with
  | none => cases r <;> simp [Request.op] at asked <;> rfl
  | some op =>
    obtain ⟨ordinary, undecided⟩ := Request.op_ordinary asked
    have yields := Request.yields_iff asked d.scheduler.current
    cases applied : Bench.apply ⟨d.scheduler, none⟩ (primeControl d.generation) op with
    | ok result =>
      simp only [applied]
      rw [Bool.eq_iff_iff, yields]
      exact Scheduler.due_iff hosted.coherent hosted.runs ordinary applied
    | error halt =>
      simp only [applied]
      have cases : Scheduler.Answers ⟨d.scheduler, none⟩ (primeControl d.generation) op ∨ _ :=
        Scheduler.apply_cases hosted.coherent hosted.runs ordinary
      rcases cases with ⟨_, _, answered, _⟩ | ⟨_, _, ⟨ticks, _⟩ | large⟩
      · simp [applied] at answered
      · exact absurd ticks undecided
      · symm
        rw [← Bool.not_eq_true, yields]
        rintro ⟨_, rfl | rfl | ⟨quanta, _, rfl⟩⟩ <;> exact large

theorem Hosted.decides_preempt (hosted : Hosted A m d) {guard : Guard} {rest : Control}
    (control : m.control = .preempt guard :: rest) : m.decides = true := by
  simp [decides, hosted.live, hosted.dispatcher, control]

structure Dispatched (m : Machine) (d : Dispatcher Control) (op : Op) (back : Control)
    (given freed : Option Stack) (s : Scheduler Control) (timer : Timer) (period : Nat)
    (m' : Machine) : Prop where
  asked : m.control.asks d.config.stackSize m.mapping = some op
  parked : d.scheduler.parked = none
  table : Dispatch (primeControl d.generation) (fun c => c.awaits) d.scheduler op back given freed s
    m'.control
  served : op ≠ .terminate d.scheduler.current → m.control.Served back
  programs : m'.programs = m.programs
  live : m'.ending = none
  host : m'.host =
    { m.host with
      dispatcher := some { d.publish s with timer }
      signal := { m.host.signal with period }
      nextBase := given.elim m.host.nextBase Stack.top
      unmapped := freed.toList ++ m.host.unmapped }
  clock : m.Clock d op timer period

/-- What is asked of the scheduler is done, unless a number leaves the words. The end of the main
thread is another matter. -/
theorem Hosted.asked_step (hosted : Hosted A m d)
    (asked : m.control.asks d.config.stackSize m.mapping = some op)
    (other : op ≠ .terminate 0) :
    (∃ back given freed s timer period, m.Dispatched d op back given freed s timer period m.step) ∨
      ((∃ f, m.step = { m with control := unwind (.fault f) m.control }) ∧
        ((wordMax ≤ d.scheduler.total ∧ m.decides) ∨ op.Oversized)) := by
  obtain ⟨t, actor, slot, among, tenant, shape⟩ := hosted.current_slot
  have same : ∀ {op' : Op}, m.control.asks d.config.stackSize m.mapping = some op' →
      op' = op := fun again => Option.some.inj (again.symm.trans asked)
  cases hosted.transition tenant shape with
  | own _ idle => simp [idle] at asked
  | quits calm => simp [calm.asks_eq] at asked
  | failed f _ _ eq asked' =>
    obtain ⟨op', asked', reason⟩ := asked'
    obtain rfl := same asked'
    exact .inr ⟨⟨f, eq⟩, reason⟩
  | dispatched timer period asked' parked table served programs live host clock =>
    obtain rfl := same asked'
    exact .inl ⟨_, _, _, _, _, _, asked', parked, table, served, programs, live, host, clock⟩
  | reaped control | disposed _ _ control => simp [control, Control.asks] at asked
  | installed control => simp [control, Control.asks, Request.op] at asked
  | exited _ _ _ _ _ asked' | handedOver _ _ _ _ _ _ _ _ _ _ _ asked' =>
    exact absurd (same asked').symm other

end Machine

end RoundRobin
