import RoundRobin.Proofs.Machine.Sections
import RoundRobin.Proofs.Machine.Stages

/-!
# The mask of a thread

Whoever runs, the mask is as its own control says. So a thread that gets back from a call or a tick
finds the mask as it was when it went, whatever the others did meanwhile; a fresh thread begins its
program with preemption let through, though it was switched to inside somebody else's section; and
the scheduler is left alone while the mask is clear.
-/

namespace RoundRobin.Machine

variable {A A' : Actor → Option Nat → Prop} {m : Machine} {d d' : Dispatcher Control}

/-- A hosted process in which every thread keeps to its sections. -/
structure Sheltered (A : Actor → Option Nat → Prop) (m : Machine) (d : Dispatcher Control) :
    Prop where
  hosted : Hosted A m d
  masked : m.masked = m.control.held
  nested : d.scheduler.Peopled (fun _ r => r.work.Nested) (fun c => c.awaits) m.control

namespace Sheltered

theorem own_nested (sheltered : Sheltered A m d) : m.control.Nested := by
  obtain ⟨_, _, _, nested⟩ := sheltered.nested.current sheltered.hosted.runs
  exact nested

/-- What the running thread does without the scheduler keeps to its sections. -/
theorem own (sheltered : Sheltered A m d)
    (idle : m.control.asks d.config.stackSize m.mapping = none) (next : Hosted A' m.step d') :
    m.step.masked = m.step.control.held ∧ m.step.control.Nested := by
  have hosted := sheltered.hosted
  have nested := sheltered.own_nested
  obtain ⟨t, actor, slot, among, tenant, shape⟩ := hosted.current_slot
  cases hosted.transition tenant shape with
  | own how _ kept live _ _ _ covered =>
    rcases how with calm | ⟨_, advances⟩
    · rcases strides hosted.live calm.outside hosted.home live with foreign | stride
      · exact absurd foreign next.home
      · exact stride.nested calm sheltered.masked nested
    · rw [covered advances.inKernel]
      generalize m.control = c, m.step.control = c' at advances nested
      cases advances with
      | served served => exact ⟨served.held.symm, served.nested nested⟩
      | start generation base guard inside => exact ⟨rfl, rfl, inside, trivial⟩
      | fetch generation base guard =>
        have inside : guard.saved = true := nested.1
        refine ⟨rfl, inside.trans rfl, ?_⟩
        split
        · exact ⟨rfl, trivial, trivial, rfl, trivial⟩
        · exact ⟨rfl, trivial, trivial⟩
  | quits _ _ ended => simp [next.live] at ended
  | failed _ _ _ _ asked => simp [idle] at asked
  | dispatched _ _ asked => simp [idle] at asked
  | reaped control shape' eq =>
    have masked : m.masked := hosted.masked (by rw [control]; rfl)
    rw [control] at nested
    have held : Control.held _ = true := nested.1
    rw [eq]
    exact ⟨masked.trans held.symm, nested.2⟩
  | installed control user slot' report perm programs live host control' =>
    have masked : m.masked := hosted.masked (by rw [control]; rfl)
    rw [control] at nested
    rw [Machine.masked, Signal.masked, host, report.gate, control']
    exact ⟨masked, (Control.Served.answered _ _ _ _ _).nested nested⟩
  | disposed _ _ _ _ _ _ host =>
    have there := next.dispatcher
    simp [host] at there
  | exited _ _ _ _ _ asked => simp [idle] at asked
  | handedOver _ _ _ _ _ _ _ _ _ _ _ asked => simp [idle] at asked

/-- The scheduler does its work inside a section, and whoever runs then is inside one too. -/
theorem asked (sheltered : Sheltered A m d) {op : Scheduler.Op}
    (asked : m.control.asks d.config.stackSize m.mapping = some op)
    (goesOn : m.step.ending = none) : m.step.masked = m.step.control.held := by
  have hosted := sheltered.hosted
  have masked : m.masked := hosted.masked (Control.asks_inKernel asked)
  obtain ⟨t, actor, slot, among, tenant, shape⟩ := hosted.current_slot
  cases hosted.transition tenant shape with
  | own _ idle => simp [idle] at asked
  | quits calm => simp [calm.asks_eq] at asked
  | failed f _ _ eq =>
    have nested := sheltered.own_nested
    rw [eq]
    exact sheltered.masked.trans
      (unwind_nested rfl (Control.steady_of_asks asked nested) nested).2.symm
  | dispatched timer period _ parked table served programs live host =>
    have held : m.step.control.held := by
      rcases table.stays_or_waits hosted.coherent hosted.runs hosted.peopled with
        ⟨stays, same⟩ | waits
      · rw [same]
        exact (served stays).held
      · exact Control.held_of_inKernel (awaits_inKernel waits)
    rw [Machine.masked, host, held]
    exact masked
  | reaped control | installed control | disposed _ _ control =>
    simp [control, Control.asks, Request.op] at asked
  | exited _ _ _ ending => simp [goesOn] at ending
  | handedOver _ spawned slot' stored _ _ _ _ _ _ host =>
    obtain ⟨rest, found⟩ := hosted.main_slot spawned slot'
    rw [Machine.masked, host, Option.some.inj (stored.symm.trans found)]
    exact masked

/-- Every thread keeps to its sections from step to step. -/
theorem step (sheltered : Sheltered A m d) (next : Hosted A' m.step d') :
    Sheltered A' m.step d' where
  hosted := next
  masked := by
    cases asked : m.control.asks d.config.stackSize m.mapping with
    | none => exact (sheltered.own asked next).1
    | some op => exact sheltered.asked asked next.live
  nested := by
    have nested := sheltered.own_nested
    refine sheltered.hosted.carry sheltered.nested (fun _ _ => ⟨trivial, trivial⟩) ?_ ?_ ?_ next
    · intro c served
      exact served.nested nested
    · intro op asked f
      exact (unwind_nested rfl (Control.steady_of_asks asked nested) nested).1
    · intro idle
      exact (sheltered.own idle next).2

end Sheltered

/-- A bare process whose only thread keeps to its sections, and which nobody ticks. -/
structure Unticked (m : Machine) : Prop where
  masked : m.masked = m.control.held
  nested : m.control.Nested
  default : m.host.signal.disposition = .default
  tickless : ∀ guard rest, m.control ≠ .preempt guard :: rest

/-- Nothing ticks a process without a dispatcher. -/
theorem Enters.tickless {c c' : Control} (entry : Enters m c c') (nobody : m.host.dispatcher = none)
    (default : m.host.signal.disposition = .default) (guard : Guard) (rest : Control) :
    c' ≠ .preempt guard :: rest := by
  cases entry with
  | fires hosted => simp [nobody] at hosted
  | interrupted handled => simp [default] at handled
  | _ => simp

theorem Unticked.step (unticked : m.Unticked) (bare : m.Bare A) (next : m.step.Bare A)
    (kept : m.Undisturbed m.step)
    (how : Calm .main m.control ∨ (m.step.host = m.host ∧ (m.control.Served m.step.control ∨
      ∃ guard, m.control = .preempt guard :: m.step.control))) : m.step.Unticked := by
  have default : m.step.host.signal.disposition = .default := by
    obtain ⟨_, _, _, signal⟩ := kept.signal
    rw [signal]
    exact unticked.default
  rcases how with calm | ⟨host, served | ⟨guard, control⟩⟩
  · rcases strides bare.live calm.outside bare.notOther next.live with foreign | stride
    · exact absurd foreign next.notOther
    · obtain ⟨masked, nested⟩ := stride.nested calm unticked.masked unticked.nested
      refine ⟨masked, nested, default, ?_⟩
      intro guard rest control
      have entry := stride.entry calm (by rw [control]; rfl)
      exact entry.tickless bare.nobody unticked.default _ _ control
  · refine ⟨?_, served.nested unticked.nested, default, served.ne_preempt⟩
    rw [Machine.masked, host, served.held]
    exact bare.masked served.inKernel
  · exact absurd control (unticked.tickless _ _)

/-- The first dispatcher is made inside a section. -/
theorem Unticked.installs (unticked : m.Unticked) (bare : m.Bare A) {config : Config}
    {guard : Guard} {did : Deed} {rest : Control} {fresh : Scheduler Control}
    {made : Report Control}
    (control : m.control = .perform (.install config) guard (.program did) :: rest)
    (report : m.host.Installed config none [] fresh made) (host : m.step.host = made.host)
    (control' : m.step.control = .restore guard :: .note did (.answer .done) :: rest)
    (next : Hosted A m.step d') : Sheltered A m.step d' := by
  have inside : m.masked := bare.masked (by rw [control]; rfl)
  have nested := unticked.nested
  rw [control] at nested
  have nested' : m.step.control.Nested := by
    rw [control']
    exact (Control.Served.answered _ _ _ _ _).nested nested
  obtain ⟨timer, signal, made_eq, _⟩ := report.host
  obtain rfl := Option.some.inj
    (next.dispatcher.symm.trans (congrArg Host.dispatcher (host.trans made_eq)))
  refine ⟨next, ?_, Scheduler.new_peopled report.new none nested'⟩
  rw [Machine.masked, Signal.masked, host, report.gate, control']
  exact inside

/-- A process in which every thread keeps to its sections, whatever phase it is in. -/
def Covered (m : Machine) : Prop :=
  m.Stage (fun _ _ => True) m.Unticked (Sheltered (fun _ _ => True) m)

/-- Every thread keeps to its sections all along. -/
theorem Begins.covered (begins : Begins m) (n : Nat) : (run n m).Covered := by
  induction n with
  | zero =>
    refine begins.stage ?_ ?_
    · rintro main programs system rfl
      exact ⟨rfl, ⟨trivial, trivial, trivial⟩, rfl, by simp [run, process]⟩
    · rintro capacity fresh config event main programs system new rfl hosted
      exact ⟨hosted, rfl, Scheduler.new_peopled new none ⟨trivial, trivial, trivial⟩⟩
  | succ n ih =>
    rw [run_step]
    refine ih.step ?_ ?_ ?_
    · intro bare unticked next kept how
      exact unticked.step bare next kept how
    · intro config guard did rest fresh made d' bare unticked next control report host control'
      exact unticked.installs bare control report host control' next
    · intro d d' _ sheltered next
      exact sheltered.step next

/-- The mask is as the control of the running thread says, until the process is about to end without
a dispatcher. -/
theorem Covered.masked_eq (covered : m.Covered) (live : m.ending = none)
    (home : m.host.owner ≠ some otherThread) :
    m.masked = m.control.held ∨ (m.host.dispatcher = none ∧ Leaving m.control) := by
  cases covered with
  | ended gone => simp [live] at gone
  | foreign owner => exact absurd owner home
  | bare _ unticked => exact .inl unticked.masked
  | hosted d _ sheltered => exact .inl sheltered.masked
  | handedOver d handed =>
    obtain ⟨rest, control⟩ := handed.reaps
    rw [control]
    exact .inl handed.masked
  | leaving _ nobody leaving => exact .inr ⟨nobody, leaving⟩

/-- Whoever is fresh is somebody with a program. -/
theorem Hosted.entry_of_start (hosted : Hosted A m d) {generation base : Nat}
    (control : m.control = [.start generation base]) :
    ∃ program, d.scheduler.entryOf d.scheduler.current = some program := by
  obtain ⟨t, slot, running, actor, _, _, shape⟩ := hosted.peopled.current hosted.runs
  have spawned : d.scheduler.current ≠ 0 := by
    rw [control] at shape
    cases shape with
    | calm calm => exact absurd calm.outside (by simp [Control.inKernel])
    | start _ spawned => exact spawned
  have entry := (hosted.coherent.slots _ t slot).entry (Nat.pos_of_ne_zero spawned)
  obtain ⟨program, entry⟩ := Option.isSome_iff_exists.mp (entry.mpr (by simp [running]))
  exact ⟨program, by simp [Scheduler.entryOf, slot, entry]⟩

/-- A fresh thread comes to its program with preemption let through. -/
theorem Hosted.starts (hosted : Hosted A m d) {generation base : Nat}
    (control : m.control = [.start generation base]) :
    ∃ program, d.scheduler.entryOf d.scheduler.current = some program ∧
      (run 5 m).control =
        [.note .started .nothing, .run ((m.programs[program]?).getD []),
          .returned generation base] ∧
      (run 5 m).masked = false ∧ (run 5 m).ending = none := by
  obtain ⟨program, entry⟩ := hosted.entry_of_start control
  refine ⟨program, entry, ?_⟩
  -- Five steps: into a section, a parked stack given back, the program looked up, out of the section
  -- again, which changes nothing since the thread was switched to inside one, and the mask cleared.
  have entered : m.step.control = [.reap, .fetch generation base ⟨m.masked⟩] ∧ m.step.masked ∧
      m.step.ending = none ∧ m.step.host.dispatcher = some d ∧ m.step.programs = m.programs := by
    rw [hosted.step_eq control (by rw [control]; rfl)]
    exact ⟨rfl, rfl, hosted.live, hosted.dispatcher, rfl⟩
  rw [hosted.masked (by rw [control]; rfl)] at entered
  rw [run_succ, ← entered.2.2.2.2]
  generalize m.step = m₁ at entered
  obtain ⟨control₁, masked₁, live₁, dispatcher₁, _⟩ := entered
  have reaped : m₁.step.control = [.fetch generation base ⟨true⟩] ∧ m₁.step.masked ∧
      m₁.step.ending = none ∧ m₁.step.programs = m₁.programs ∧ m₁.step.host.dispatcher =
        some { d with scheduler := { d.scheduler with parked := none } } := by
    rw [step_of_masked live₁ masked₁ control₁]
    simpa [work, reap, dispatcher₁, Host.reap, Scheduler.takeParked, hosted.shutdown, Host.unmap,
      Host.put] using ⟨masked₁, live₁⟩
  rw [run_succ, ← reaped.2.2.2.1]
  generalize m₁.step = m₂ at reaped
  obtain ⟨control₂, masked₂, live₂, _, dispatcher₂⟩ := reaped
  let body : Control := [.note .started .nothing, .run ((m₂.programs[program]?).getD []),
    .returned generation base]
  have fetched : m₂.step.control = .restore ⟨true⟩ :: .unmask :: body ∧ m₂.step.masked ∧
      m₂.step.ending = none := by
    have same : ({ d.scheduler with parked := none } : Scheduler Control).entryOf
        d.scheduler.current = some program := entry
    rw [step_of_masked live₂ masked₂ control₂]
    simpa [work, fetch, dispatcher₂, same, body] using ⟨masked₂, live₂⟩
  rw [run_succ]
  generalize m₂.step = m₃ at fetched
  obtain ⟨control₃, masked₃, live₃⟩ := fetched
  have left : m₃.step.control = .unmask :: body ∧ m₃.step.masked ∧ m₃.step.ending = none := by
    rw [step_of_masked live₃ masked₃ control₃]
    exact ⟨rfl, rfl, live₃⟩
  rw [run_succ]
  generalize m₃.step = m₄ at left
  obtain ⟨control₄, masked₄, live₄⟩ := left
  rw [run_succ, step_of_masked live₄ masked₄ control₄]
  exact ⟨rfl, rfl, live₄⟩

/-- The scheduler changes inside a section only. -/
theorem Hosted.changes (hosted : Hosted A m d) :
    m.step.host.dispatcher = m.host.dispatcher ∨ (m.masked ∧ m.step.masked) := by
  obtain ⟨t, actor, slot, among, tenant, shape⟩ := hosted.current_slot
  have inside : ∀ {gate : Gate}, m.control.inKernel → gate = m.host.signal.gate →
      m.step.host.signal.gate = gate →
      m.step.host.dispatcher = m.host.dispatcher ∨ (m.masked ∧ m.step.masked) := by
    intro gate kernel same after
    have masked : m.masked := hosted.masked kernel
    refine .inr ⟨masked, ?_⟩
    rw [Machine.masked, Signal.masked, after, same]
    exact masked
  cases hosted.transition tenant shape with
  | own _ _ kept | quits _ kept => exact .inl kept.dispatcher
  | failed _ _ _ eq => exact .inl (by rw [eq])
  | dispatched _ _ asked _ _ _ _ _ host =>
    exact inside (Control.asks_inKernel asked) rfl (by rw [host])
  | reaped control _ eq => exact inside (by rw [control]; rfl) rfl (by rw [eq])
  | installed control _ _ report _ _ _ host =>
    exact inside (by rw [control]; rfl) report.gate (by rw [host])
  | disposed _ _ control _ _ _ host _ gate =>
    exact inside (by rw [control]; rfl) gate (by rw [host])
  | exited kernel _ _ _ host =>
    obtain ⟨timer, signal, torn, gate, _⟩ :=
      m.host.teardown_eq { d with scheduler := { d.scheduler with shutdown := true } }
    exact inside kernel gate (by rw [host, torn])
  | handedOver kernel _ _ _ _ _ _ _ _ _ host => exact inside kernel rfl (by rw [host])

theorem Phase.changes (phase : m.Phase A) (home : m.step.host.owner ≠ some otherThread) :
    m.step.host.dispatcher = m.host.dispatcher ∨ (m.masked ∧ m.step.masked) := by
  cases phase with
  | ended gone =>
    obtain ⟨e, ended⟩ := Option.isSome_iff_exists.mp gone
    exact .inl (by rw [step_of_ended ended])
  | foreign owner => exact absurd (step_owner owner) home
  | bare bare =>
    cases bare.transition with
    | own kept | quits kept | left kept => exact .inl kept.dispatcher
    | claimed foreign => exact absurd foreign home
    | installed user report owner live host control' control =>
      have masked : m.masked := bare.masked (by rw [control]; rfl)
      refine .inr ⟨masked, ?_⟩
      rw [Machine.masked, Signal.masked, host, report.gate]
      exact masked
  | hosted d hosted => exact hosted.changes
  | handedOver d handed =>
    refine .inr ⟨handed.masked, ?_⟩
    rw [Machine.masked, Signal.masked, handed.step.2, m.host.reap_gate d]
    exact handed.masked
  | leaving live nobody leaving => exact .inl (leaving.step live nobody).1.dispatcher

/-- Every thread finds the mask as it left it, however many others ran meanwhile: a call or a tick
that returns puts back what held when it was made, and a thread that is back where it was has the
mask that it had there. A fresh thread comes to its program with preemption let through, though it
is switched to inside a section. The scheduler changes inside a section only. -/
theorem mask_kept_across_switches {m₀ m m' : Machine} (begins : Begins m₀) (n k : Nat)
    (reached : run n m₀ = m) (later : run k m = m') (live : m'.ending = none)
    (home : m'.host.owner ≠ some otherThread) :
    (∀ i is rest did result, m.control = .run (i :: is) :: rest →
      m'.control = .note did result :: .run is :: rest → m'.masked = m.masked) ∧
    (m.host.dispatcher.isSome → m'.host.dispatcher.isSome → m'.control = m.control →
      m'.masked = m.masked) ∧
    (∀ generation base, m'.control = [.start generation base] → m'.masked ∧
      ∃ d program, m'.host.dispatcher = some d ∧
        d.scheduler.entryOf d.scheduler.current = some program ∧
        (run 5 m').control =
          [.note .started .nothing, .run ((m'.programs[program]?).getD []),
            .returned generation base] ∧
        (run 5 m').masked = false ∧ (run 5 m').ending = none) ∧
    (m'.step.host.owner ≠ some otherThread →
      m'.step.host.dispatcher = m'.host.dispatcher ∨ (m'.masked ∧ m'.step.masked)) := by
  have covered : m.Covered := reached ▸ begins.covered n
  have covered' : m'.Covered := by
    rw [← later, ← reached, ← run_add]
    exact begins.covered (n + k)
  have live₀ : m.ending = none := live_of_run (later ▸ live)
  have home₀ : m.host.owner ≠ some otherThread := fun owner => home (later ▸ run_owner owner k)
  refine ⟨?_, ?_, ?_, ?_⟩
  · intro i is rest did result control control'
    rcases covered.masked_eq live₀ home₀ with before | ⟨_, leaving⟩
    · rcases covered'.masked_eq live home with after | ⟨_, leaving⟩
      · rw [before, after, control, control']
        rfl
      · rw [control'] at leaving
        cases leaving
    · rw [control] at leaving
      cases leaving
  · intro hosted hosted' same
    rcases covered.masked_eq live₀ home₀ with before | ⟨nobody, _⟩
    · rcases covered'.masked_eq live home with after | ⟨nobody, _⟩
      · rw [before, after, same]
      · simp [nobody] at hosted'
    · simp [nobody] at hosted
  · intro generation base control
    cases covered' with
    | ended gone => simp [live] at gone
    | foreign owner => exact absurd owner home
    | bare bare => exact absurd bare.awake (by simp [control, Control.awaits])
    | hosted d hosted =>
      obtain ⟨program, entry, starts⟩ := hosted.starts control
      exact ⟨hosted.masked (by rw [control]; rfl), d, program, hosted.dispatcher, entry, starts⟩
    | handedOver d handed =>
      obtain ⟨rest, reaps⟩ := handed.reaps
      simp [control] at reaps
    | leaving _ _ leaving =>
      rw [control] at leaving
      cases leaving
  · intro home'
    have phase : m'.Phase fun _ _ => True :=
      later ▸ (reached ▸ begins.phase.run n : m.Phase _).run k
    exact phase.changes home'

/-- The main thread spawns two threads and lets the first run; later, with preemption let through,
it resumes that one. -/
def secludedMain : List Instr :=
  [.call (.spawn (some 0)), .call (.spawn (some 1)), .fire, .call (.resume (.tid 1)), .fire]

def secludedPrograms : List (List Instr) := [[.masked [.call (.block .self)]], []]

def secluded : Machine :=
  match standalone 4 1000 none none secludedMain secludedPrograms with
  | .ok (.ok m) => m
  | _ => process [] []

/-- The first thread is back from its call with the mask set as it was, and the second one, which
was switched to from inside that section, has begun with the mask clear. -/
theorem mask_kept_across_switches_secluded :
    (run 17 secluded).masked = true ∧ (run 31 secluded).masked = false ∧
      (run 40 secluded).masked = (run 17 secluded).masked ∧
      (run 19 secluded).control = [.start 0 (Host.firstBase + 69632)] ∧
      (run 19 secluded).masked ∧ (run 24 secluded).masked = false := by
  have started : standalone 4 1000 none none secludedMain secludedPrograms = .ok (.ok secluded) :=
    rfl
  have begins : Begins secluded := .hosted (by decide) (by decide) started
  have back : run 23 (run 17 secluded) = run 40 secluded := (run_add 17 23 secluded).symm
  have switched : run 2 (run 17 secluded) = run 19 secluded := (run_add 17 2 secluded).symm
  obtain ⟨returns, _⟩ := mask_kept_across_switches begins 17 23 rfl back (by decide +kernel)
    (by decide +kernel)
  obtain ⟨_, _, starts, _⟩ := mask_kept_across_switches begins 17 2 rfl switched (by decide +kernel)
    (by decide +kernel)
  have fresh : (run 19 secluded).control = [.start 0 (Host.firstBase + 69632)] := rfl
  obtain ⟨masked, _, _, _, _, _, clear, _⟩ := starts _ _ fresh
  rw [← run_add] at clear
  exact ⟨by decide +kernel, by decide +kernel, returns _ _ _ _ _ rfl rfl, fresh, masked, clear⟩

end RoundRobin.Machine
