import RoundRobin.Host.Call
import RoundRobin.Proofs.Preemption.Signal
import RoundRobin.Proofs.Scheduler.Residents

/-!
# Requests carried out

A request is an operation of the scheduler and what the dispatcher makes of the answer: it makes the
decision that is due, publishes it and restarts the quantum, gives back a stack that is no longer
needed, and ends the process or hands it over when the main thread is to end. `Fulfilled` lists the
outcomes; `fulfilled` shows that there are no others.
-/

namespace RoundRobin

open Scheduler (Op Bench)

variable {κ : Type}

/-- The operation of the scheduler that a request comes to, if it does not only look. -/
def Request.op (stackSize : Nat) (map : Nat → Except OsError Nat) : Request → Option Op
  | .spawn entry => some (.spawn entry stackSize map)
  | .terminate tid => some (.terminate tid)
  | .block tid => some (.block tid)
  | .resume tid => some (.resume tid)
  | .sleep quanta => some (.sleep quanta)
  | .install _ | .quantaOf _ | .stateOf _ => none

theorem Request.op_ordinary {r : Request} {stackSize : Nat} {map : Nat → Except OsError Nat}
    {op : Op} (asked : r.op stackSize map = some op) : op.isOrdinary ∧ op ≠ .schedule := by
  cases r <;> simp only [Request.op, Option.some.injEq, reduceCtorEq] at asked <;> subst asked <;>
    simp [Op.isOrdinary]

inductive Restarted {α : Type} (signal : Signal α) : Timer → Timer → Nat → Prop where
  | manual (t : ManualTimer Unit) :
      Restarted signal (.manual t) (.manual t.rearm) signal.period
  | signal {period : Nat} (rearmed : signal.rearm = { signal with period }) :
      Restarted signal .signal .signal period

namespace Host

/-- What a request comes to while `d` is in charge. -/
inductive Fulfilled (h : Host κ) (d : Dispatcher κ) (map : Nat → Except OsError Nat)
    (prime : Nat → Tid → Stack → Option κ) (r : Request) : Except Halt (Report κ) → Prop where
  /-- A look at the table. -/
  | looked (a : Answer) (looks : r.op d.config.stackSize map = none) :
      Fulfilled h d map prime r (.ok ⟨.returns a, [], h⟩)
  /-- The caller goes on. -/
  | answered {op : Op} {answer : Scheduler.Answer} {s : Scheduler κ} (a : Answer)
      (events : List Event) (asked : r.op d.config.stackSize map = some op)
      (applied : Bench.apply ⟨d.scheduler, none⟩ (prime d.generation) op = .ok (answer, ⟨s, none⟩))
      (effect : d.scheduler.Effect op answer s) (quiet : answer.callsForDecision = false)
      (goesOn : answer ≠ .ended .processEnd) :
      Fulfilled h d map prime r
        (.ok ⟨.returns a, events,
          { h with
            dispatcher := some { d with scheduler := s }
            nextBase := (s.granted answer).elim h.nextBase Stack.top
            unmapped := answer.freed.toList ++ h.unmapped }⟩)
  /-- The caller is off the processor or has ended. -/
  | yielded {op : Op} {answer : Scheduler.Answer} {s s' : Scheduler κ} {switch : Switch}
      (timer : Timer) (period : Nat) (asked : r.op d.config.stackSize map = some op)
      (applied : Bench.apply ⟨d.scheduler, none⟩ (prime d.generation) op = .ok (answer, ⟨s, none⟩))
      (effect : d.scheduler.Effect op answer s) (due : answer.callsForDecision = true)
      (decided : s.schedule = .ok (switch, s')) (dec : s.Decision switch s')
      (parked : s'.parked = s.parked) (restarted : Restarted h.signal d.timer timer period) :
      Fulfilled h d map prime r
        (.ok ⟨if answer = .ended .ownEnd then .ends switch else .suspends switch, [],
          { h with
            dispatcher := some { d.publish s' with timer }
            signal := { h.signal with period } }⟩)
  /-- The main thread ends the process. -/
  | exited (asked : r = .terminate 0) (main : d.scheduler.current = 0) (events : List Event) :
      Fulfilled h d map prime r
        (.ok ⟨.exits, events,
          (h.teardown { d with scheduler := { d.scheduler with shutdown := true } }).2⟩)
  /-- A spawned thread has the main thread end the process. -/
  | handedOver {main : Thread κ} {s : Scheduler κ} (events : List Event)
      (asked : r = .terminate 0) (spawned : d.scheduler.current ≠ 0)
      (slot : d.scheduler.threads[0]? = some main)
      (threads : s.threads = d.scheduler.threads.set 0 { main with state := .running })
      (current : s.current = 0) (shutdown : s.shutdown = true)
      (parked : s.parked = d.scheduler.parked) (total : s.total = d.scheduler.total)
      (queue : s.ready.toList = d.scheduler.ready.toList.erase 0) :
      Fulfilled h d map prime r
        (.ok ⟨.handsOver ⟨d.scheduler.current, 0⟩, events, h.put (d.publish s)⟩)
  /-- A number has left the words: the counter in the decision that is due, or the length of a
  mapping. -/
  | failed (f : Fault)
      (reason : (wordMax ≤ d.scheduler.total ∧ ∃ op answer b,
          r.op d.config.stackSize map = some op ∧
          Bench.apply ⟨d.scheduler, none⟩ (prime d.generation) op = .ok (answer, b) ∧
          answer.callsForDecision = true) ∨
        ((∃ entry, r = .spawn entry) ∧ Stack.Oversized d.config.stackSize)) :
      Fulfilled h d map prime r (.error (.fault f))

variable {h : Host κ} {d : Dispatcher κ} {map : Nat → Except OsError Nat}
  {prime : Nat → Tid → Stack → Option κ} {r : Request} {op : Op} {answer : Scheduler.Answer}
  {s : Scheduler κ}

theorem rearm_eq (h : Host κ) (d : Dispatcher κ) :
    ∃ timer period, h.rearm d =
        { h with dispatcher := some { d with timer }, signal := { h.signal with period } } ∧
      Restarted h.signal d.timer timer period := by
  unfold rearm
  cases clock : d.timer with
  | manual t => exact ⟨_, h.signal.period, rfl, .manual t⟩
  | signal =>
    obtain ⟨period, rearmed⟩ := h.signal.rearm_eq
    exact ⟨.signal, period, by simp only [rearmed, ← clock]; rfl, .signal rearmed⟩

theorem reschedule_eq {switch : Switch} {s' : Scheduler κ}
    (decided : s.schedule = .ok (switch, s')) :
    ∃ timer period, h.reschedule { d with scheduler := s } true =
        .ok (switch,
          { h with
            dispatcher := some { d.publish s' with timer }
            signal := { h.signal with period } }) ∧
      Restarted h.signal d.timer timer period := by
  obtain ⟨timer, period, rearmed, restarted⟩ := h.rearm_eq (d.publish s')
  refine ⟨timer, period, ?_, restarted⟩
  rw [← rearmed]
  simp [reschedule, decided, Dispatcher.publish]

/-- The decision that an answer calls for is made, or the counter is at its end. -/
theorem Fulfilled.of_due (coh : d.scheduler.Coherent)
    (asked : r.op d.config.stackSize map = some op)
    (applied : Bench.apply ⟨d.scheduler, none⟩ (prime d.generation) op = .ok (answer, ⟨s, none⟩))
    (effect : d.scheduler.Effect op answer s) (due : answer.callsForDecision = true)
    {outcome : Switch → Outcome}
    (goes : ∀ switch,
      outcome switch = if answer = .ended .ownEnd then .ends switch else .suspends switch) :
    h.Fulfilled d map prime r (do
      let (switch, h) ← h.reschedule { d with scheduler := s } true
      return ⟨outcome switch, [], h⟩) := by
  rcases (effect.coherent coh).schedule_cases with
    ⟨switch, s', decided, dec, parked⟩ | ⟨full, fault⟩
  · obtain ⟨timer, period, rescheduled, restarted⟩ := reschedule_eq (h := h) (d := d) decided
    simp only [rescheduled, ok_bind, pure_eq_ok, goes]
    exact .yielded timer period asked applied effect due decided dec parked restarted
  · have stuck : h.reschedule { d with scheduler := s } true = .error (.fault .addOverflow) := by
      simp [reschedule, fault]
    rw [(effect.keeps (Request.op_ordinary asked).2).2] at full
    rw [stuck, error_bind]
    exact .failed _ (.inl ⟨full, op, answer, _, asked, applied, due⟩)

theorem conclude_inv {α : Type} {f : α → Scheduler.Answer} {s₀ : Scheduler κ}
    {x : Except Halt (Except Error α × Scheduler κ)}
    (concluded : (do return Bench.conclude ⟨s₀, none⟩ f (← x)) =
      .ok (answer, (⟨s, none⟩ : Bench κ))) :
    (∃ e, x = .ok (.error e, s) ∧ answer = .refused e) ∨
      ∃ a, x = .ok (.ok a, s) ∧ answer = f a := by
  simp only [bind_eq_ok, Prod.exists, pure_eq_ok, Except.ok.injEq] at concluded
  obtain ⟨r, s', eq, concluded⟩ := concluded
  cases r with
  | error e =>
    simp only [Bench.conclude, Prod.mk.injEq, Bench.mk.injEq, and_true] at concluded
    obtain ⟨rfl, rfl⟩ := concluded
    exact .inl ⟨e, eq, rfl⟩
  | ok a =>
    simp only [Bench.conclude, Prod.mk.injEq, Bench.mk.injEq, and_true] at concluded
    obtain ⟨rfl, rfl⟩ := concluded
    exact .inr ⟨a, eq, rfl⟩

/-- An operation by which a thread may suspend itself. -/
theorem Fulfilled.of_suspension (coh : d.scheduler.Coherent)
    (asked : r.op d.config.stackSize map = some op)
    (applied : Bench.apply ⟨d.scheduler, none⟩ (prime d.generation) op = .ok (answer, ⟨s, none⟩))
    (effect : d.scheduler.Effect op answer s) {x : Except Error Suspension}
    (answers : (∃ e, x = .error e ∧ answer = .refused e) ∨
      ∃ a, x = .ok a ∧ answer = .suspension a) :
    h.Fulfilled d map prime r (h.suspended d (x, s)) := by
  rcases answers with ⟨e, rfl, rfl⟩ | ⟨a, rfl, rfl⟩
  · exact .answered (.refused e) [] asked applied effect rfl (by simp)
  · cases a with
    | goOn => exact .answered .done [] asked applied effect rfl (by simp)
    | reschedule => exact .of_due coh asked applied effect rfl fun _ => by simp

/-- A hand-over to the main thread always succeeds. -/
theorem handOff_eq (formed : s.Formed) :
    ∃ main s', s.handOff = .ok (⟨s.current, 0⟩, s') ∧ s.threads[0]? = some main ∧
      s'.threads = s.threads.set 0 { main with state := .running } ∧ s'.current = 0 ∧
      s'.shutdown = s.shutdown ∧ s'.parked = s.parked ∧ s'.total = s.total ∧
      s'.ready.toList = s.ready.toList.erase 0 := by
  obtain ⟨main, slot⟩ := Scheduler.Coherent.slot_of_lt (Nat.zero_lt_of_lt formed.current_lt)
  obtain ⟨ready, ring, handed⟩ := Scheduler.handOff_eq formed slot
  exact ⟨main, _, handed, slot, rfl, rfl, rfl, rfl, rfl, ring.toList_eq⟩

theorem shutdown_formed (formed : s.Formed) : ({ s with shutdown := true } : Scheduler κ).Formed :=
  ⟨formed.numbered, formed.current_lt, formed.ring, formed.queued_lt⟩

theorem fulfilled {objections : Objections} (dispatcher : h.dispatcher = some d)
    (coh : d.scheduler.Coherent) (runs : d.scheduler.state? d.scheduler.current = some .running)
    (other : ∀ config, r ≠ .install config) :
    h.Fulfilled d (h.mapping objections) prime r (h.perform objections prime r) := by
  have apply_cases : ∀ {op : Op}, r.op d.config.stackSize (h.mapping objections) = some op →
      (∃ answer s, Bench.apply ⟨d.scheduler, none⟩ (prime d.generation) op =
          .ok (answer, ⟨s, none⟩) ∧ d.scheduler.Effect op answer s) ∨
        ∃ f, Bench.apply ⟨d.scheduler, none⟩ (prime d.generation) op = .error (.fault f) ∧
          op.Oversized := by
    intro op asked
    obtain ⟨ordinary, decided⟩ := Request.op_ordinary asked
    have cases : Scheduler.Answers ⟨d.scheduler, none⟩ (prime d.generation) op ∨ _ :=
      Scheduler.apply_cases coh runs ordinary
    rcases cases with ⟨answer, s, applied, effect⟩ | ⟨f, fault, reason⟩
    · exact .inl ⟨answer, s, applied, effect⟩
    · exact .inr ⟨f, fault, reason.resolve_left fun h => decided h.1⟩
  cases r with
  | install config => exact absurd rfl (other config)
  | quantaOf tid =>
    have performed : h.perform objections prime (.quantaOf tid) =
        .ok (h.answered .number (d.scheduler.quantaOf tid)) := by simp [perform, dispatcher]
    rw [performed]
    cases d.scheduler.quantaOf tid with
    | error e => exact .looked (.refused e) rfl
    | ok n => exact .looked (.number n) rfl
  | stateOf tid =>
    have performed : h.perform objections prime (.stateOf tid) =
        .ok (h.answered .state (d.scheduler.stateOf tid)) := by simp [perform, dispatcher]
    rw [performed]
    cases d.scheduler.stateOf tid with
    | error e => exact .looked (.refused e) rfl
    | ok state => exact .looked (.state state) rfl
  | block tid =>
    have performed : h.perform objections prime (.block tid) =
        (do h.suspended d (← d.scheduler.block tid)) := by simp [perform, dispatcher]
    have asked : (Request.block tid).op d.config.stackSize (h.mapping objections) =
        some (.block tid) := rfl
    rw [performed]
    rcases apply_cases asked with ⟨answer, s, applied, effect⟩ | ⟨f, fault, large⟩
    · rcases conclude_inv applied with ⟨e, blocked, answers⟩ | ⟨a, blocked, answers⟩
      · rw [blocked, ok_bind]
        exact .of_suspension coh asked applied effect (.inl ⟨e, rfl, answers⟩)
      · rw [blocked, ok_bind]
        exact .of_suspension coh asked applied effect (.inr ⟨a, rfl, answers⟩)
    · exact absurd large id
  | sleep quanta =>
    have performed : h.perform objections prime (.sleep quanta) =
        (do h.suspended d (← d.scheduler.sleep quanta)) := by simp [perform, dispatcher]
    have asked : (Request.sleep quanta).op d.config.stackSize (h.mapping objections) =
        some (.sleep quanta) := rfl
    rw [performed]
    rcases apply_cases asked with ⟨answer, s, applied, effect⟩ | ⟨f, fault, large⟩
    · rcases conclude_inv applied with ⟨e, slept, answers⟩ | ⟨a, slept, answers⟩
      · rw [slept, ok_bind]
        exact .of_suspension coh asked applied effect (.inl ⟨e, rfl, answers⟩)
      · rw [slept, ok_bind]
        exact .of_suspension coh asked applied effect (.inr ⟨a, rfl, answers⟩)
    · exact absurd large id
  | resume tid =>
    have performed : h.perform objections prime (.resume tid) = (do
        let resumed ← d.scheduler.resume tid
        return (h.putScheduler d resumed.2).answered (fun _ => .done) resumed.1) := by
      simp [perform, dispatcher]
    have asked : (Request.resume tid).op d.config.stackSize (h.mapping objections) =
        some (.resume tid) := rfl
    rw [performed]
    rcases apply_cases asked with ⟨answer, s, applied, effect⟩ | ⟨f, fault, large⟩
    · rcases conclude_inv applied with ⟨e, resumed, rfl⟩ | ⟨a, resumed, rfl⟩
      · rw [resumed, ok_bind]
        exact .answered (.refused e) [] asked applied effect rfl (by simp)
      · rw [resumed, ok_bind]
        exact .answered .done [] asked applied effect rfl (by simp)
    · exact absurd large id
  | spawn entry =>
    have performed : h.perform objections prime (.spawn entry) =
        h.spawn d objections (prime d.generation) entry := by simp [perform, dispatcher]
    have asked : (Request.spawn entry).op d.config.stackSize (h.mapping objections) =
        some (.spawn entry d.config.stackSize (h.mapping objections)) := rfl
    rw [performed, spawn]
    rcases apply_cases asked with ⟨answer, s, applied, effect⟩ | ⟨f, fault, large⟩
    · rcases conclude_inv applied with ⟨e, spawned, rfl⟩ | ⟨tid, spawned, rfl⟩
      · rw [spawned, ok_bind]
        exact .answered (.refused e) [] asked applied effect rfl (by simp)
      · rw [spawned, ok_bind]
        exact .answered (.tid tid) [.spawned tid s.ready.len] asked applied effect rfl (by simp)
    · have refused : d.scheduler.spawn entry d.config.stackSize (h.mapping objections)
          (prime d.generation) = .error (.fault f) := by
        cases spawned : d.scheduler.spawn entry d.config.stackSize (h.mapping objections)
            (prime d.generation) with
        | ok r => simp [Bench.apply, spawned] at fault
        | error e => simpa [Bench.apply, spawned] using fault
      rw [refused, error_bind]
      exact .failed f (.inr ⟨⟨entry, rfl⟩, large⟩)
  | terminate tid =>
    have performed : h.perform objections prime (.terminate tid) = h.terminate d tid := by
      simp [perform, dispatcher]
    have asked : (Request.terminate tid).op d.config.stackSize (h.mapping objections) =
        some (.terminate tid) := rfl
    rw [performed, terminate]
    rcases apply_cases asked with ⟨answer, s, applied, effect⟩ | ⟨f, fault, large⟩
    · rcases conclude_inv applied with ⟨e, terminated, rfl⟩ | ⟨ending, terminated, rfl⟩
      · rw [terminated, ok_bind]
        exact .answered (.refused e) [] asked applied effect rfl (by simp)
      · rw [terminated, ok_bind]
        cases ending with
        | removed stack =>
          have given : stack.toList.reverse = stack.toList := by cases stack <;> rfl
          have answered := Fulfilled.answered (h := h) .done [.terminated tid] asked applied effect
            rfl (by simp)
          simp only [put, unmap, given]
          exact answered
        | ownEnd => exact .of_due coh asked applied effect rfl fun _ => by simp
        | processEnd =>
          obtain ⟨rfl, rfl⟩ := effect.of_processEnd
          by_cases main : d.scheduler.current = 0
          · simp only [if_pos main, pure_eq_ok]
            exact .exited rfl main _
          · obtain ⟨first, s', handed, slot, threads, current, shutdown, parked, total, queue⟩ :=
              handOff_eq (shutdown_formed coh.formed)
            simp only [if_neg main, handed, ok_bind, pure_eq_ok]
            exact .handedOver _ rfl main slot threads current shutdown parked total queue
    · exact absurd large id

end Host

end RoundRobin
