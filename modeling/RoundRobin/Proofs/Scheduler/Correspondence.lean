import RoundRobin.Proofs.Scheduler.Discipline
import Mathlib.Data.List.Forall2

/-!
# Corresponding tables

Operations look at the number, the state and the stack of a slot and at whether it is due, and
they change it in a few ways. A relation between slots that agrees on the former and survives the
latter is a correspondence. Ordinary operations come to the same end on two schedulers whose tables
correspond slot by slot, with the same answer if any, and the tables correspond again. So a
disciplined run on one table can be followed on the other.
-/

namespace RoundRobin

/-- Two computations come to the same end: both give up for one reason, or their results are
related. -/
inductive Agree {ε α β : Type} (R : α → β → Prop) : Except ε α → Except ε β → Prop where
  | ok {a : α} {b : β} (related : R a b) : Agree R (.ok a) (.ok b)
  | error (e : ε) : Agree R (.error e) (.error e)

namespace Agree

variable {ε α β γ δ : Type} {R : α → β → Prop} {S : γ → δ → Prop} {x : Except ε α} {y : Except ε β}

theorem bind {f : α → Except ε γ} {g : β → Except ε δ} (first : Agree R x y)
    (rest : ∀ a b, R a b → Agree S (f a) (g b)) : Agree S (x >>= f) (y >>= g) := by
  cases first with
  | ok related => exact rest _ _ related
  | error e => exact .error e

/-- The first computation is the same on both sides. -/
theorem bind_same (z : Except ε α) {f : α → Except ε γ} {g : α → Except ε δ}
    (rest : ∀ a, Agree S (f a) (g a)) : Agree S (z >>= f) (z >>= g) := by
  cases z with
  | ok a => exact rest a
  | error e => exact .error e

theorem left_ok {a : α} (agree : Agree R x y) (done : x = .ok a) : ∃ b, y = .ok b ∧ R a b := by
  cases agree with
  | ok related =>
    obtain rfl := Except.ok.inj done
    exact ⟨_, rfl, related⟩
  | error e => simp at done

theorem right_ok {b : β} (agree : Agree R x y) (done : y = .ok b) : ∃ a, x = .ok a ∧ R a b := by
  cases agree with
  | ok related =>
    obtain rfl := Except.ok.inj done
    exact ⟨_, rfl, related⟩
  | error e => simp at done

theorem error_iff {e : ε} (agree : Agree R x y) : x = .error e ↔ y = .error e := by
  cases agree with
  | ok related => simp
  | error d => simp

end Agree

section Tables

variable {α β : Type} {R : α → β → Prop} {xs : List α} {ys : List β}

theorem slots_related (table : List.Forall₂ R xs ys) (i : Nat) : Option.Rel R xs[i]? ys[i]? := by
  induction table generalizing i with
  | nil => exact .none
  | cons related _ ih =>
    cases i with
    | zero => exact .some related
    | succ i => exact ih i

theorem slot_related {x : α} {i : Nat} (table : List.Forall₂ R xs ys) (at_i : xs[i]? = some x) :
    ∃ y, ys[i]? = some y ∧ R x y := by
  have slots := slots_related table i
  rw [at_i] at slots
  generalize ys[i]? = slot at slots ⊢
  cases slots with
  | some related => exact ⟨_, rfl, related⟩

theorem modify_related {f : α → α} {g : β → β} (table : List.Forall₂ R xs ys) (i : Nat)
    (here : ∀ x y, xs[i]? = some x → R x y → R (f x) (g y)) :
    List.Forall₂ R (xs.modify i f) (ys.modify i g) := by
  induction table generalizing i with
  | nil => cases i <;> exact .nil
  | cons related rest ih =>
    cases i with
    | zero => exact .cons (here _ _ rfl related) rest
    | succ i => exact .cons related (ih i here)

theorem Checked.get_agree (table : List.Forall₂ R xs ys) (i : Nat) :
    Agree R (get xs i) (get ys i) := by
  have slots := slots_related table i
  unfold get
  rw [table.length_eq]
  generalize xs[i]? = slot, ys[i]? = slot' at slots ⊢
  cases slots with
  | none => exact .error _
  | some related => exact .ok related

theorem Checked.set_agree (table : List.Forall₂ R xs ys) (i : Nat) {x : α} {y : β}
    (related : R x y) : Agree (List.Forall₂ R) (set xs i x) (set ys i y) := by
  unfold set
  rw [table.length_eq]
  split
  · rw [List.set_eq_modify, List.set_eq_modify]
    exact .ok (modify_related table i fun _ _ _ _ => related)
  · exact .error _

end Tables

namespace Scheduler

variable {κ ι : Type}

/-- A relation between slots that operations respect. `prime` and `prime'` give what a thread of
either table is first continued from. -/
structure Correspondence (prime : Tid → Stack → Option κ) (prime' : Tid → Stack → Option ι)
    (R : Thread κ → Thread ι → Prop) : Prop where
  tid : ∀ {t u}, R t u → t.tid = u.tid
  state : ∀ {t u}, R t u → t.state = u.state
  stack : ∀ {t u}, R t u → t.stack = u.stack
  due : ∀ {t u}, R t u → ∀ now, t.isDue now = u.isDue now
  /-- A change of state that puts nobody to sleep. -/
  moved : ∀ {t u}, R t u → ∀ state : ThreadState, (state.isSleeping → t.state.isSleeping) →
    R { t with state } { u with state }
  /-- A change of state and deadline. -/
  dated : ∀ {t u}, R t u → ∀ state wakeAt, R { t with state, wakeAt } { u with state, wakeAt }
  picked : ∀ {t u}, R t u → R t.markRunning u.markRunning
  admitted : ∀ {t u}, R t u → ∀ program tid stack,
    R { t with
        entry := some program, context := prime tid stack, stack := some stack, quanta := 0,
        wakeAt := 0, state := .ready }
      { u with
        entry := some program, context := prime' tid stack, stack := some stack, quanta := 0,
        wakeAt := 0, state := .ready }
  blank : ∀ tid, R (.unused tid) (.unused tid)

def withTable (s : Scheduler κ) (table : List (Thread ι)) : Scheduler ι :=
  ⟨table, s.ready, s.current, s.total, s.parked, s.shutdown⟩

theorem withTable_current (s : Scheduler κ) (table : List (Thread ι)) :
    (s.withTable table).current = s.current := rfl

/-- The tables correspond slot by slot, and everything else is the same. -/
inductive Alike (R : Thread κ → Thread ι → Prop) (s : Scheduler κ) : Scheduler ι → Prop where
  | intro {table : List (Thread ι)} (slots : List.Forall₂ R s.threads table) :
      Alike R s (s.withTable table)

theorem Alike.total_eq {R : Thread κ → Thread ι → Prop} {s : Scheduler κ} {s' : Scheduler ι}
    (alike : s.Alike R s') : s.total = s'.total := by
  cases alike with
  | intro slots => rfl

def SameAnswer {α : Type} (R : Thread κ → Thread ι → Prop) (r : α × Scheduler κ)
    (r' : α × Scheduler ι) : Prop :=
  r.1 = r'.1 ∧ Alike R r.2 r'.2

namespace Correspondence

variable {prime : Tid → Stack → Option κ} {prime' : Tid → Stack → Option ι}
  {R : Thread κ → Thread ι → Prop} {s : Scheduler κ} {table : List (Thread ι)}

theorem unused (c : Correspondence prime prime' R) {t : Thread κ} {u : Thread ι} (related : R t u) :
    t.isUnused = u.isUnused := by
  rw [Thread.isUnused, c.state related, Thread.isUnused]

theorem wake (c : Correspondence prime prime' R) {t : Thread κ} {u : Thread ι} (related : R t u) :
    t.wake.1 = u.wake.1 ∧ R t.wake.2 u.wake.2 := by
  unfold Thread.wake
  rw [c.state related]
  split
  · exact ⟨congrArg _ (c.tid related), c.dated related .blocked 0⟩
  · exact ⟨congrArg _ (c.tid related), c.dated related .ready 0⟩

theorem expire (c : Correspondence prime prime' R) {threads : List (Thread κ)} (now : Nat)
    (slots : List.Forall₂ R threads table) :
    (RoundRobin.expire now threads).1 = (RoundRobin.expire now table).1 ∧
      List.Forall₂ R (RoundRobin.expire now threads).2 (RoundRobin.expire now table).2 := by
  induction slots with
  | nil => exact ⟨rfl, .nil⟩
  | cons related rest ih =>
    obtain ⟨wakeups, expired⟩ := ih
    obtain ⟨wakeup, woken⟩ := c.wake related
    simp only [RoundRobin.expire, c.due related now]
    split
    · exact ⟨by rw [wakeup, wakeups], .cons woken expired⟩
    · exact ⟨wakeups, .cons related expired⟩

theorem requeueRunning (c : Correspondence prime prime' R) {threads : List (Thread κ)}
    (slots : List.Forall₂ R threads table) (ready : ReadyQueue) (current : Tid) :
    Agree (fun r r' => List.Forall₂ R r.1 r'.1 ∧ r.2 = r'.2)
      (Scheduler.requeueRunning threads ready current)
      (Scheduler.requeueRunning table ready current) := by
  refine (Checked.get_agree slots current).bind fun t u related => ?_
  rw [c.state related]
  split
  · have rested := c.moved related .ready (by simp)
    refine (Checked.set_agree slots current rested).bind fun _ _ requeued => ?_
    exact .bind_same _ fun _ => .ok ⟨requeued, rfl⟩
  · exact .ok ⟨slots, rfl⟩

theorem schedule (c : Correspondence prime prime' R) (slots : List.Forall₂ R s.threads table) :
    Agree (SameAnswer R) s.schedule (s.withTable table).schedule := by
  obtain ⟨wakeups, expired⟩ := c.expire s.total slots
  simp only [Scheduler.schedule, withTable, ← wakeups]
  refine .bind_same _ fun ready => .bind_same _ fun total => ?_
  refine (c.requeueRunning expired ready s.current).bind ?_
  rintro ⟨threads, ready⟩ ⟨threads', _⟩ ⟨requeued, rfl⟩
  refine .bind_same _ fun popped => ?_
  cases popped with
  | none => exact .error _
  | some popped =>
    refine (Checked.get_agree requeued _).bind fun t u related => ?_
    refine (Checked.set_agree requeued _ (c.picked related)).bind fun _ _ turned => ?_
    exact .ok ⟨rfl, .intro turned⟩

theorem freeSlot? (c : Correspondence prime prime' R) (slots : List.Forall₂ R s.threads table) :
    Option.Rel R s.freeSlot? (s.withTable table).freeSlot? := by
  have find : ∀ {xs : List (Thread κ)} {ys : List (Thread ι)}, List.Forall₂ R xs ys →
      Option.Rel R (xs.find? Thread.isUnused) (ys.find? Thread.isUnused) := by
    intro xs ys slots
    induction slots with
    | nil => exact .none
    | cons related rest ih =>
      rw [List.find?_cons, List.find?_cons, c.unused related]
      split
      · exact .some related
      · exact ih
  have spawned := List.forall₂_drop 1 slots
  rw [List.drop_one, List.drop_one] at spawned
  exact find spawned

theorem spawn (c : Correspondence prime prime' R) (slots : List.Forall₂ R s.threads table)
    (entry : Option Nat) (size : Nat) (map : Nat → Except OsError Nat) :
    Agree (SameAnswer R) (s.spawn entry size map prime)
      ((s.withTable table).spawn entry size map prime') := by
  have same : Alike R s (s.withTable table) := .intro slots
  cases entry with
  | none => exact .ok ⟨rfl, same⟩
  | some program =>
    have free := c.freeSlot? slots
    unfold Scheduler.spawn Scheduler.spawnWith
    dsimp only
    generalize s.freeSlot? = found, (s.withTable table).freeSlot? = found' at free ⊢
    cases free with
    | none => exact .ok ⟨rfl, same⟩
    | some spare =>
      dsimp only
      rw [c.tid spare]
      refine .bind_same _ fun answer => ?_
      cases answer with
      | error reason => exact .ok ⟨rfl, same⟩
      | ok stack =>
        refine (Checked.get_agree slots _).bind fun t u related => ?_
        refine (Checked.set_agree slots _ (c.admitted related program _ stack)).bind ?_
        intro _ _ taken
        exact .bind_same _ fun _ => .ok ⟨rfl, .intro taken⟩

theorem thread (c : Correspondence prime prime' R) (slots : List.Forall₂ R s.threads table)
    (tid : Tid) :
    Agree (fun t u => s.threads[tid]? = some t ∧ R t u) (s.thread tid)
      ((s.withTable table).thread tid) := by
  have slot := slots_related slots tid
  unfold Scheduler.thread
  simp only [withTable]
  generalize s.threads[tid]? = found, table[tid]? = found' at slot ⊢
  cases slot with
  | none => exact .error _
  | some related =>
    dsimp only
    rw [c.unused related]
    split
    · exact .ok ⟨rfl, related⟩
    · exact .error _

theorem stateOf (c : Correspondence prime prime' R) (slots : List.Forall₂ R s.threads table)
    (tid : Tid) : (s.withTable table).stateOf tid = s.stateOf tid := by
  have found := c.thread slots tid
  unfold Scheduler.stateOf
  generalize s.thread tid = t, (s.withTable table).thread tid = u at found ⊢
  cases found with
  | ok related => exact congrArg Except.ok (c.state related.2).symm
  | error e => rfl

/-- A slot whose state is known changes it on both sides. -/
theorem setState (c : Correspondence prime prime' R) (slots : List.Forall₂ R s.threads table)
    {tid : Tid} {old : ThreadState} (known : s.stateOf tid = .ok old) (state : ThreadState)
    (asleep : state.isSleeping → old.isSleeping) :
    List.Forall₂ R (s.setState tid state).threads
      ((s.withTable table).setState tid state).threads := by
  refine modify_related slots tid fun t u slot related => c.moved related state ?_
  have here : old = t.state := by
    simp only [Scheduler.stateOf, Scheduler.thread, slot] at known
    split at known
    · exact (Except.ok.inj known).symm
    · cases known
  rwa [← here]

theorem block (c : Correspondence prime prime' R) (slots : List.Forall₂ R s.threads table)
    (tid : Tid) : Agree (SameAnswer R) (s.block tid) ((s.withTable table).block tid) := by
  have same : Alike R s (s.withTable table) := .intro slots
  unfold Scheduler.block
  split
  · exact .ok ⟨rfl, same⟩
  · rw [c.stateOf slots]
    cases known : s.stateOf tid with
    | error e => exact .ok ⟨rfl, same⟩
    | ok state =>
      have held := c.setState slots known .blocked (by simp)
      cases state with
      | blocked => exact .ok ⟨rfl, same⟩
      | sleeping => exact .ok ⟨rfl, .intro (c.setState slots known .sleepBlocked (by simp))⟩
      | sleepBlocked => exact .ok ⟨rfl, .intro (c.setState slots known .sleepBlocked (by simp))⟩
      | running | ready | unused =>
        dsimp only
        rw [withTable_current]
        split
        · exact .ok ⟨rfl, .intro held⟩
        · exact .bind_same _ fun _ => .ok ⟨rfl, .intro held⟩

theorem resume (c : Correspondence prime prime' R) (slots : List.Forall₂ R s.threads table)
    (tid : Tid) : Agree (SameAnswer R) (s.resume tid) ((s.withTable table).resume tid) := by
  have same : Alike R s (s.withTable table) := .intro slots
  unfold Scheduler.resume
  rw [c.stateOf slots]
  cases known : s.stateOf tid with
  | error e => exact .ok ⟨rfl, same⟩
  | ok state =>
    cases state with
    | blocked =>
      have lifted := c.setState slots known .ready (by simp)
      exact .bind_same _ fun _ => .ok ⟨rfl, .intro lifted⟩
    | sleepBlocked => exact .ok ⟨rfl, .intro (c.setState slots known .sleeping (by simp))⟩
    | running | ready | sleeping | unused => exact .ok ⟨rfl, same⟩

theorem sleep (c : Correspondence prime prime' R) (slots : List.Forall₂ R s.threads table)
    (quanta : Nat) : Agree (SameAnswer R) (s.sleep quanta) ((s.withTable table).sleep quanta) := by
  unfold Scheduler.sleep
  rw [withTable_current]
  split
  · exact .ok ⟨rfl, .intro slots⟩
  · refine (Checked.get_agree slots s.current).bind fun t u related => ?_
    have asleep := c.dated related .sleeping (addSaturating s.total quanta)
    refine (Checked.set_agree slots s.current asleep).bind fun _ _ slept => ?_
    exact .ok ⟨rfl, .intro slept⟩

theorem terminate (c : Correspondence prime prime' R) (slots : List.Forall₂ R s.threads table)
    (tid : Tid) : Agree (SameAnswer R) (s.terminate tid) ((s.withTable table).terminate tid) := by
  have found := c.thread slots tid
  unfold Scheduler.terminate
  rw [withTable_current]
  split
  · exact .ok ⟨rfl, .intro slots⟩
  · generalize s.thread tid = t, (s.withTable table).thread tid = u at found ⊢
    cases found with
    | error e => exact .ok ⟨rfl, .intro slots⟩
    | ok related =>
      dsimp only [Thread.release]
      rw [c.tid related.2, c.stack related.2]
      refine (Checked.set_agree slots tid (c.blank _)).bind fun _ _ ended => ?_
      refine .bind_same _ fun _ => ?_
      split
      · exact .ok ⟨rfl, .intro ended⟩
      · exact .ok ⟨rfl, .intro ended⟩

end Correspondence

structure Bench.Alike (R : Thread κ → Thread ι → Prop) (b : Bench κ) (b' : Bench ι) : Prop where
  scheduler : b.scheduler.Alike R b'.scheduler
  held : b.held = b'.held

def Bench.SameAnswer {α : Type} (R : Thread κ → Thread ι → Prop) (r : α × Bench κ)
    (r' : α × Bench ι) : Prop :=
  r.1 = r'.1 ∧ r.2.Alike R r'.2

namespace Correspondence

variable {prime : Tid → Stack → Option κ} {prime' : Tid → Stack → Option ι}
  {R : Thread κ → Thread ι → Prop} {b b' : Bench κ} {d : Bench ι}

theorem conclude {α : Type} (alike : b.Alike R d) (f : α → Answer)
    {r : Except Error α × Scheduler κ} {r' : Except Error α × Scheduler ι}
    (same : SameAnswer R r r') : Bench.SameAnswer R (b.conclude f r) (d.conclude f r') := by
  obtain ⟨answer, s⟩ := r
  obtain ⟨answer', s'⟩ := r'
  obtain ⟨rfl, after⟩ := same
  cases answer with
  | ok a => exact ⟨rfl, after, alike.held⟩
  | error e => exact ⟨rfl, after, alike.held⟩

/-- An ordinary operation comes to the same end on benches that are alike. -/
theorem apply (c : Correspondence prime prime' R) (alike : b.Alike R d) {op : Op}
    (ordinary : op.isOrdinary) :
    Agree (Bench.SameAnswer R) (b.apply prime op) (d.apply prime' op) := by
  obtain ⟨s, held⟩ := b
  obtain ⟨s', held'⟩ := d
  have both := alike
  obtain ⟨⟨slots⟩, rfl⟩ := both
  cases op with
  | spawn entry size map =>
    exact (c.spawn slots entry size map).bind fun _ _ same => .ok (conclude alike _ same)
  | schedule =>
    refine (c.schedule slots).bind fun _ _ same => .ok ⟨?_, same.2, rfl⟩
    exact congrArg Answer.switched same.1
  | block tid => exact (c.block slots tid).bind fun _ _ same => .ok (conclude alike _ same)
  | resume tid => exact (c.resume slots tid).bind fun _ _ same => .ok (conclude alike _ same)
  | sleep quanta => exact (c.sleep slots quanta).bind fun _ _ same => .ok (conclude alike _ same)
  | terminate tid => exact (c.terminate slots tid).bind fun _ _ same => .ok (conclude alike _ same)
  | handOff | takeParked | releaseAll | detachRunning | adoptMain | releaseMain =>
    simp [Op.isOrdinary] at ordinary

theorem decide (c : Correspondence prime prime' R) (alike : b.Alike R d) :
    Agree (Bench.SameAnswer R) b.decide d.decide := by
  obtain ⟨s, held⟩ := b
  obtain ⟨s', held'⟩ := d
  obtain ⟨⟨slots⟩, rfl⟩ := alike
  refine (c.schedule slots).bind ?_
  rintro ⟨switch, after⟩ ⟨_, _⟩ ⟨rfl, ⟨turned⟩⟩
  exact .ok ⟨rfl, .intro turned, rfl⟩

theorem settle (c : Correspondence prime prime' R) (alike : b.Alike R d) (answer : Answer) :
    Agree (Bench.SameAnswer R) (b.settle answer) (d.settle answer) := by
  unfold Bench.settle
  split
  · exact (c.decide alike).bind fun _ _ same => .ok ⟨congrArg some same.1, same.2⟩
  · exact .ok ⟨rfl, alike⟩

theorem act (c : Correspondence prime prime' R) (alike : b.Alike R d) {op : Op}
    (ordinary : op.isOrdinary) :
    Agree (Bench.SameAnswer R) (b.act prime op) (d.act prime' op) := by
  refine (c.apply alike ordinary).bind ?_
  rintro ⟨answer, middle⟩ ⟨_, middle'⟩ ⟨rfl, between⟩
  refine (c.settle between answer).bind ?_
  rintro ⟨decision, after⟩ ⟨_, after'⟩ ⟨rfl, afterwards⟩
  exact .ok ⟨rfl, afterwards⟩

/-- A step on one bench can be made on the other. -/
theorem step (c : Correspondence prime prime' R) {step : Step κ} (valid : step.Valid prime)
    (alike : step.before.Alike R d) :
    ∃ middle after, Step.Valid prime' ⟨d, step.op, step.answer, middle, step.decision, after⟩ ∧
      step.middle.Alike R middle ∧ step.after.Alike R after := by
  obtain ⟨⟨_, middle⟩, applied, rfl, between⟩ :=
    (c.apply alike valid.ordinary).left_ok valid.applied
  obtain ⟨⟨_, after⟩, settled, rfl, afterwards⟩ :=
    (c.settle between step.answer).left_ok valid.settled
  exact ⟨middle, after, ⟨valid.ordinary, applied, settled⟩, between, afterwards⟩

/-- A disciplined run on one bench can be followed on the other. -/
theorem run (c : Correspondence prime prime' R) {steps : List (Step κ)}
    (run : Run prime b steps b') (alike : b.Alike R d) :
    ∃ steps' d', Run prime' d steps' d' ∧ b'.Alike R d' := by
  induction run generalizing d with
  | stop b => exact ⟨[], d, .stop d, alike⟩
  | step valid rest ih =>
    obtain ⟨middle, after, valid', _, afterwards⟩ := c.step valid alike
    obtain ⟨steps', d', followed, last⟩ := ih afterwards
    exact ⟨_, d', .step valid' followed, last⟩

theorem formed (c : Correspondence prime prime' R) {s : Scheduler κ} {s' : Scheduler ι}
    (alike : s.Alike R s') (formed : s'.Formed) : s.Formed := by
  obtain ⟨slots⟩ := alike
  have length := slots.length_eq
  refine ⟨?_, length ▸ formed.current_lt, length ▸ formed.ring, length ▸ formed.queued_lt⟩
  intro i t at_i
  obtain ⟨u, at_u, related⟩ := slot_related slots at_i
  exact (c.tid related).trans (formed.numbered i u at_u)

theorem state? (c : Correspondence prime prime' R) {s : Scheduler κ} {s' : Scheduler ι}
    (alike : s.Alike R s') (i : Tid) : s'.state? i = s.state? i := by
  cases alike with
  | @intro table slots =>
    have slot := slots_related slots i
    simp only [Scheduler.state?, withTable]
    generalize s.threads[i]? = found, table[i]? = found' at slot ⊢
    cases slot with
    | none => rfl
    | some related => exact congrArg some (c.state related).symm

/-- What the check looks at is the same. -/
theorem passes (c : Correspondence prime prime' R) {s : Scheduler κ} {s' : Scheduler ι}
    (alike : s.Alike R s') (passes : s'.Passes) : s.Passes := by
  have state := c.state? alike
  obtain ⟨slots⟩ := alike
  refine ⟨fun i => state i ▸ passes.running_iff i, fun i => state i ▸ passes.queued_iff i, ?_, ?_⟩
  · intro i t at_i first
    obtain ⟨u, at_u, related⟩ := slot_related slots at_i
    rw [c.stack related, c.state related]
    exact passes.stack_iff i u at_u first
  · intro main at_main
    obtain ⟨u, at_u, related⟩ := slot_related slots at_main
    rw [c.state related]
    exact passes.awake u at_u

/-- A bench that is like a settled one is safe. -/
theorem safe (c : Correspondence prime prime' R) (alike : b.Alike R d)
    (settled : d.scheduler.Settled) : Safe prime b := by
  intro steps b' run
  obtain ⟨steps', d', followed, last⟩ := c.run run alike
  have there := followed.settled settled
  have here := c.formed last.scheduler there.coherent.formed
  have passes := c.passes last.scheduler (there.coherent.passes there.runs)
  refine ⟨here.passes_iff.mpr passes, fun op ordinary => ?_⟩
  obtain ⟨_, acts⟩ := settled.safe prime' steps' d' followed
  obtain ⟨never, answered⟩ := acts op ordinary
  have same := c.act last ordinary
  refine ⟨fun a aborts => never a (same.error_iff.mp aborts), fun inWord small => ?_⟩
  obtain ⟨r, d'', done⟩ := answered (last.scheduler.total_eq ▸ inWord) small
  obtain ⟨⟨r', b''⟩, done', _⟩ := same.right_ok done
  exact ⟨r', b'', done'⟩

end Correspondence

end Scheduler

end RoundRobin
