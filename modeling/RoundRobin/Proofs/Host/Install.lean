import RoundRobin.Host.Call
import RoundRobin.Proofs.Preemption.Signal
import RoundRobin.Proofs.Scheduler.Residents

/-!
# One dispatcher after another

Ending a dispatcher gives back the stacks of its table, except the one that the caller runs on.
Starting over ends the dispatcher that there is and makes a fresh one, whose main thread is the
caller: it takes its own stack with it, and everything else is given back.
-/

namespace RoundRobin

open Scheduler (Coherent)

variable {κ : Type}

namespace Scheduler

variable {s : Scheduler κ}

def withStack (s : Scheduler κ) (i : Tid) (stack : Option Stack) : Scheduler κ :=
  { s with threads := s.threads.modify i fun t => { t with stack } }

theorem withStack_slot (s : Scheduler κ) (i : Tid) (stack : Option Stack) (j : Tid) :
    (s.withStack i stack).threads[j]? =
      s.threads[j]?.map fun t => if i = j then { t with stack } else t := by
  rw [withStack, List.getElem?_modify]
  cases s.threads[j]? with
  | none => rfl
  | some t => by_cases here : i = j <;> simp [here]

theorem withStack_eq_set {i : Tid} {t : Thread κ} (slot : s.threads[i]? = some t)
    (stack : Option Stack) :
    s.withStack i stack = { s with threads := s.threads.set i { t with stack } } := by
  obtain ⟨inside, rfl⟩ := List.getElem?_eq_some_iff.mp slot
  rw [withStack, List.modify_eq_set_get _ inside]
  rfl

/-- The main thread of a new table owns no stack. -/
theorem new_withStack {capacity : Nat} (new : Scheduler.new capacity = .ok s) :
    s.withStack 0 none = s := by
  unfold Scheduler.new at new
  split at new
  · simp at new
  · next main rest table =>
    obtain ⟨i, _, rfl⟩ := List.mem_map.mp (table ▸ List.mem_cons_self)
    cases Except.ok.inj new
    rfl

/-- In a new table lives nobody but the main thread. -/
theorem new_peopled {capacity : Nat} (new : Scheduler.new capacity = .ok s) (own : Option Stack)
    {P : Tid → Resident κ → Prop} {W : κ → Prop} {running : κ} (holds : P 0 ⟨own, none, running⟩) :
    (s.withStack 0 own).Peopled P W running := by
  have bench : Bench.new capacity = .ok ⟨s, none⟩ := by simp [Bench.new, new]
  have current : (s.withStack 0 own).current = 0 := (new_fields new).1
  intro i t slot live
  have changed := slot
  rw [withStack_slot] at changed
  obtain ⟨u, before, changed⟩ := Option.map_eq_some_iff.mp changed
  rw [new_slots bench before] at changed
  by_cases main : i = 0
  · subst main
    have found : (s.withStack 0 own).resident running 0 = some ⟨t.stack, t.entry, running⟩ := by
      rw [← current] at slot ⊢
      exact resident_current slot live
    refine ⟨_, found, ?_, fun other => absurd current.symm other⟩
    subst changed
    exact holds
  · simp only [if_neg main, Ne.symm main, if_false] at changed
    exact absurd (changed ▸ rfl) live

/-- The main thread may own a stack or not. -/
theorem Coherent.withMainStack (coh : s.Coherent) (stack : Option Stack) :
    (s.withStack 0 stack).Coherent := by
  have length : (s.withStack 0 stack).threads.length = s.threads.length := by simp [withStack]
  refine ⟨by rw [length]; exact coh.current_lt, by rw [length]; exact coh.ring,
    by rw [length]; exact coh.queued_lt, coh.nodup, ?_⟩
  intro i u slot
  rw [withStack_slot] at slot
  obtain ⟨t, before, rfl⟩ := Option.map_eq_some_iff.mp slot
  have old := coh.slots i t before
  split
  · next main =>
    subst main
    exact
      { numbered := old.numbered
        running := old.running
        queued := old.queued
        deadline := old.deadline
        blank := old.blank
        stack := by simp
        entry := by simp
        main := old.main }
  · exact old

theorem takeStack_ok {i : Tid} {t : Thread κ} (slot : s.threads[i]? = some t) :
    s.takeStack i = .ok (t.stack, s.withStack i none) := by
  rw [takeStack_eq slot, withStack_eq_set slot]

theorem adoptMain_ok {main : Thread κ} (slot : s.threads[0]? = some main) (stack : Stack) :
    s.adoptMain stack = .ok (s.withStack 0 (some stack)) := by
  rw [adoptMain_eq slot, withStack_eq_set slot]

theorem withStack_owned {i : Tid} {t : Thread κ} (slot : s.threads[i]? = some t)
    (stack : Option Stack) :
    (t.stack.toList ++ (s.withStack i stack).owned).Perm (stack.toList ++ s.owned) := by
  have table := filterMap_set_perm Thread.stack slot { t with stack }
  rw [withStack_eq_set slot]
  exact (List.perm_append_comm_assoc ..).trans
    ((table.append_left _).trans (List.perm_append_comm_assoc ..))

/-- A teardown gives back all stacks if the main thread has none. -/
theorem releaseAll_mappings {main : Thread κ} (slot : s.threads[0]? = some main)
    (bare : main.stack = none) : s.releaseAll.1.mappings.Perm s.owned := by
  have rest : s.releaseAll.2.owned = [] := by
    cases threads : s.threads with
    | nil => simp [threads] at slot
    | cons first others =>
      obtain rfl : first = main := by simpa [threads] using slot
      have blank : (others.map fun t => t.release.2).filterMap Thread.stack = [] := by
        rw [List.filterMap_map]
        exact List.filterMap_eq_nil_iff.mpr fun _ _ => rfl
      simp [releaseAll, owned, threads, bare, blank]
  simpa [rest] using s.releaseAll_owned

end Scheduler

/-- Whether ticks come from a timer that has the process's signal at its disposal. -/
def Timer.isArmed {α : Type} (signal : Signal α) : Timer → Bool
  | .manual t => t.isArmed
  | .signal => signal.armed

/-- No tick comes any more: a manual timer has no callback, and the interval timer is off and its
signal ignored. -/
def Timer.Off {α : Type} (signal : Signal α) : Timer → Prop
  | .manual t => t.isArmed = false
  | .signal => signal.armed = false ∧ signal.period = 0 ∧ signal.disposition = .ignore

namespace Host

variable {h : Host κ} {d : Dispatcher κ}

theorem disarm_eq (h : Host κ) (d : Dispatcher κ) :
    ∃ timer signal, h.disarm d =
        { h with dispatcher := some { d with timer }, signal } ∧
      signal.gate = h.signal.gate ∧ (h.signal.pending = false → signal.pending = false) ∧
      (d.timer.isArmed h.signal → timer.Off signal) := by
  unfold disarm
  cases clock : d.timer with
  | manual t => exact ⟨_, h.signal, rfl, rfl, id, fun _ => rfl⟩
  | signal =>
    have same : ({ d with timer := .signal } : Dispatcher κ) = d := by rw [← clock]
    refine ⟨.signal, h.signal.disarm, by rw [same]; rfl, h.signal.disarm_gate,
      h.signal.disarm_pending, ?_⟩
    intro armed
    have armed : h.signal.armed = true := armed
    simp [Timer.Off, Signal.disarm, armed, Signal.unregister]

theorem teardown_eq (h : Host κ) (d : Dispatcher κ) :
    ∃ timer signal, (h.teardown d).2 =
        { h with
          dispatcher := some { d with scheduler := d.scheduler.releaseAll.2, timer }
          signal
          unmapped := d.scheduler.releaseAll.1.mappings.reverse ++ h.unmapped } ∧
      signal.gate = h.signal.gate ∧ (h.signal.pending = false → signal.pending = false) ∧
      (d.timer.isArmed h.signal → timer.Off signal) := by
  obtain ⟨timer, signal, disarmed, kept⟩ :=
    h.disarm_eq { d with scheduler := d.scheduler.releaseAll.2 }
  exact ⟨timer, signal, by simp only [teardown, unmap, disarmed], kept⟩

theorem reap_gate (h : Host κ) (d : Dispatcher κ) :
    (h.reap d).2.signal.gate = h.signal.gate := by
  unfold reap
  dsimp only
  split
  · obtain ⟨timer, signal, torn, gate, _⟩ :=
      ((h.put { d with scheduler := d.scheduler.takeParked.2 }).unmap
        d.scheduler.takeParked.1.toList).teardown_eq
        { d with scheduler := d.scheduler.takeParked.2 }
    rw [torn]
    exact gate
  · rfl

/-- What is logged when a dispatcher ends: a warning about the stack that the caller runs on, if it
is one of the table's, and the number of the others. -/
def farewell (d : Dispatcher κ) (own : Option Stack) (retired : Bool) : List Event :=
  let released :=
    (d.scheduler.withStack d.scheduler.current none).releaseAll.1.released.length
  (if own.isSome then [.leaking d.shownTid] else []) ++
    [if retired then .retired released else .shutDown released]

/-- The end of a dispatcher: the stacks of its table are given back, except the one that the caller
runs on. -/
theorem dispose_eq {t : Thread κ} (slot : d.scheduler.threads[d.scheduler.current]? = some t)
    (retired : Bool) :
    ∃ signal, h.dispose d retired =
        .ok (farewell d t.stack retired,
          { h with
            dispatcher := none
            signal
            unmapped :=
              (d.scheduler.withStack d.scheduler.current none).releaseAll.1.mappings.reverse ++
                h.unmapped }) ∧
      signal.gate = h.signal.gate ∧ (h.signal.pending = false → signal.pending = false) := by
  obtain ⟨timer, signal, torn, gate, quiet, _⟩ :=
    h.teardown_eq { d with scheduler := d.scheduler.withStack d.scheduler.current none }
  simp only [dispose, Scheduler.detachRunning, Scheduler.takeStack_ok slot, ok_bind, torn,
    pure_eq_ok]
  exact ⟨signal, rfl, gate, quiet⟩

/-- A dispatcher retires: it hands over the caller's stack and gives back all the others. -/
theorem retire_eq {t : Thread κ} (formed : d.scheduler.Formed)
    (slot : d.scheduler.threads[d.scheduler.current]? = some t) :
    ∃ events signal gone, h.retire d =
        .ok (t.stack, events,
          { h with dispatcher := none, signal, unmapped := gone ++ h.unmapped }) ∧
      signal.gate = h.signal.gate ∧ (t.stack.toList ++ gone).Perm d.scheduler.owned := by
  obtain ⟨main, at_main⟩ := Coherent.slot_of_lt (Nat.zero_lt_of_lt formed.current_lt)
  let s := d.scheduler.withStack d.scheduler.current none
  have detached : d.scheduler.detachRunning = .ok (t.stack, s) := Scheduler.takeStack_ok slot
  have at_current : s.threads[s.current]? = some { t with stack := none } := by
    have same : s.current = d.scheduler.current := rfl
    rw [same, Scheduler.withStack_slot, slot]
    simp
  have own : (t.stack.toList ++ s.owned).Perm d.scheduler.owned :=
    Scheduler.withStack_owned slot none
  by_cases first : d.scheduler.current = 0
  · obtain ⟨signal, disposed, gate, _⟩ :=
      dispose_eq (h := h) (d := { d with scheduler := s }) at_current false
    have again : (s.withStack s.current none).owned.Perm s.owned :=
      Scheduler.withStack_owned at_current none
    have bare : (s.withStack s.current none).threads[0]? = some { t with stack := none } := by
      have here : s.current = 0 := first
      rw [Scheduler.withStack_slot, ← here, at_current]
      simp
    let gone := (s.withStack s.current none).releaseAll.1.mappings.reverse
    refine ⟨farewell { d with scheduler := s } none false, signal, gone, ?_, gate, ?_⟩
    · have here : s.current = 0 := first
      simp only [retire, detached, ok_bind, if_pos here, disposed, pure_eq_ok]
      rfl
    · have all : gone.Perm s.owned :=
        (List.reverse_perm _).trans ((Scheduler.releaseAll_mappings bare rfl).trans again)
      exact (all.append_left _).trans own
  · have elsewhere : s.threads[0]? = some main := by
      rw [Scheduler.withStack_slot, at_main]
      simp [first]
    let s' := s.withStack 0 none
    have released : s.releaseMain = .ok (main.stack, s') := Scheduler.takeStack_ok elsewhere
    have at_current' : s'.threads[s'.current]? = some { t with stack := none } := by
      have same : s'.current = s.current := rfl
      have other : 0 ≠ s.current := fun same => first same.symm
      rw [same, Scheduler.withStack_slot, at_current]
      simp [other]
    obtain ⟨signal, disposed, gate, _⟩ := dispose_eq (h := h.unmap main.stack.toList)
      (d := { d with scheduler := s' }) at_current' true
    have again : (s'.withStack s'.current none).owned.Perm s'.owned :=
      Scheduler.withStack_owned at_current' none
    have bare : (s'.withStack s'.current none).threads[0]? = some { main with stack := none } := by
      have other : s'.current ≠ 0 := first
      rw [Scheduler.withStack_slot, Scheduler.withStack_slot, elsewhere]
      simp [other]
    let gone := (s'.withStack s'.current none).releaseAll.1.mappings.reverse ++
      main.stack.toList.reverse
    refine ⟨farewell { d with scheduler := s' } none true, signal, gone, ?_, gate, ?_⟩
    · have away : ¬ s.current = 0 := first
      simp only [retire, detached, ok_bind, if_neg away, released, disposed, pure_eq_ok, gone,
        List.append_assoc]
      rfl
    · have taken : (main.stack.toList ++ s'.owned).Perm s.owned :=
        Scheduler.withStack_owned elsewhere none
      have rest : (s'.withStack s'.current none).releaseAll.1.mappings.reverse.Perm s'.owned :=
        (List.reverse_perm _).trans ((Scheduler.releaseAll_mappings bare rfl).trans again)
      have all : gone.Perm s.owned :=
        (rest.append (List.reverse_perm _)).trans (List.perm_append_comm.trans taken)
      exact (all.append_left _).trans own

inductive Armed (signal : Signal Nat) (quantum : Quantum) (generation : Nat) :
    Timer → Timer → Signal Nat → Prop where
  | manual (t : ManualTimer Unit) :
      Armed signal quantum generation (.manual t) (.manual (t.arm quantum ())) signal
  | signal : Armed signal quantum generation .signal .signal (signal.arm quantum generation)

/-- A fresh dispatcher: a new table whose main thread owns the given stack. -/
theorem launch_eq (h : Host κ) (capacity : Nat) (one : 1 ≤ capacity) (fits : capacity < 2 ^ 60)
    (config : Config) (timer : Timer) (adopted : Option Stack) :
    ∃ fresh event timer' signal, Scheduler.new capacity = .ok fresh ∧
      h.launch capacity config timer adopted =
        .ok (event,
          { h with
            dispatcher := some ⟨fresh.withStack 0 adopted, 0, 1, config, timer', h.generation⟩
            signal
            generation := h.generation + 1 }) ∧
      signal.gate = h.signal.gate ∧
      Armed h.signal config.quantum h.generation timer timer' signal := by
  obtain ⟨fresh, new, bench, settled, _⟩ := Scheduler.new_scheduler (κ := κ) one fits
  obtain ⟨main, slot⟩ := Coherent.slot_of_lt (Nat.zero_lt_of_lt settled.coherent.current_lt)
  obtain ⟨current, total, _⟩ := Scheduler.new_fields new
  have kept := Scheduler.new_withStack new
  refine ⟨fresh, ?_⟩
  cases adopted with
  | none =>
    simp only [launch, new, ok_bind, pure_eq_ok, current, total, kept, true_and]
    cases timer with
    | manual t => exact ⟨_, _, h.signal, rfl, rfl, .manual t⟩
    | signal => exact ⟨_, _, _, rfl, rfl, .signal⟩
  | some stack =>
    have here : (fresh.withStack 0 (some stack)).current = 0 := current
    have one : (fresh.withStack 0 (some stack)).total = 1 := total
    simp only [launch, new, ok_bind, Scheduler.adoptMain_ok slot stack, pure_eq_ok, here, one,
      true_and]
    cases timer with
    | manual t => exact ⟨_, _, h.signal, rfl, rfl, .manual t⟩
    | signal => exact ⟨_, _, _, rfl, rfl, .signal⟩

/-- What starting over makes of a host: a fresh table whose main thread owns `own`, and the stacks
`gone` are given back. -/
structure Installed (h : Host κ) (config : Config) (own : Option Stack) (gone : List Stack)
    (fresh : Scheduler κ) (report : Report κ) : Prop where
  new : Scheduler.new maxThreads = .ok fresh
  outcome : report.outcome = .returns .done
  host : ∃ timer signal,
    report.host =
      { h with
        dispatcher := some ⟨fresh.withStack 0 own, 0, 1, config, timer, h.generation⟩
        signal
        generation := h.generation + 1
        unmapped := gone ++ h.unmapped } ∧
    signal.gate = h.signal.gate ∧ timer.isArmed signal

theorem Installed.gate {config : Config} {own : Option Stack} {gone : List Stack}
    {fresh : Scheduler κ} {report : Report κ}
    (installed : h.Installed config own gone fresh report) :
    report.host.signal.gate = h.signal.gate := by
  obtain ⟨timer, signal, made, gate, _⟩ := installed.host
  rw [made]
  exact gate

theorem install_first (nobody : h.dispatcher = none) (config : Config) :
    ∃ fresh report, h.install config = .ok report ∧ h.Installed config none [] fresh report := by
  obtain ⟨fresh, event, timer, signal, new, launched, gate, armed⟩ :=
    h.launch_eq maxThreads (by decide) (by decide) config .signal none
  simp only [install, nobody, launched, ok_bind, pure_eq_ok]
  cases armed with
  | signal => exact ⟨fresh, _, rfl, new, rfl, .signal, _, rfl, gate, rfl⟩

/-- Starting over keeps the caller's stack and gives back all the others. -/
theorem install_again {t : Thread κ} (dispatcher : h.dispatcher = some d)
    (formed : d.scheduler.Formed)
    (slot : d.scheduler.threads[d.scheduler.current]? = some t) (config : Config) :
    ∃ fresh gone report, h.install config = .ok report ∧
      h.Installed config t.stack gone fresh report ∧
      (t.stack.toList ++ gone).Perm d.scheduler.owned := by
  obtain ⟨events, between, gone, retired, gate, perm⟩ := retire_eq (h := h) formed slot
  let empty : Host κ :=
    { h with dispatcher := none, signal := between, unmapped := gone ++ h.unmapped }
  have retired : h.retire d = .ok (t.stack, events, empty) := retired
  obtain ⟨fresh, event, timer, signal, new, launched, gate', armed⟩ :=
    empty.launch_eq maxThreads (by decide) (by decide) config .signal t.stack
  simp only [install, dispatcher, retired, launched, ok_bind, pure_eq_ok]
  cases armed with
  | signal => exact ⟨fresh, gone, _, rfl, ⟨new, rfl, .signal, _, rfl, gate'.trans gate, rfl⟩, perm⟩

end Host

end RoundRobin
