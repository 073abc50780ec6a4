import RoundRobin.Proofs.Machine.Following

/-!
# The chronicle of a process

A chronicle keeps what was done so far: the acts of each thread, the operations that the scheduler
was asked for, and how many decisions were made. `Tracked` relates it to the state of a process with
one dispatcher and regular programs. Every thread has followed its program, and its control says
how far; the scheduler has been through a disciplined run of the operations in it, whatever the
threads had in mind; and the counter of decisions is right.
-/

namespace RoundRobin

open Scheduler (Op Bench Step Run)

/-- The program of a thread, by what its slot says. The main thread's slot says nothing. -/
def script (main : List Instr) (programs : List (List Instr)) : Option Nat → List Instr
  | none => main
  | some entry => (programs[entry]?).getD []

/-- Whom a stack belongs to, if there never was another dispatcher. -/
def holder : Option Stack → Actor
  | none => .main
  | some stack => .spawned 0 stack.base

def Numbered (actor : Actor) (entry : Option Nat) : Prop := actor = .main → entry = none

theorem Tenant.holder_eq {tid : Tid} {stack : Option Stack} {actor : Actor}
    (tenant : Tenant 0 tid stack actor) : actor = holder stack := by
  cases tenant with
  | main => rfl
  | adopted _ before => exact absurd before (Nat.not_lt_zero _)
  | spawned => rfl

structure Chronicle where
  acts : Actor → List Act
  asked : List Op
  decisions : Nat

def Machine.asks (m : Machine) : Option Op :=
  match m.ending, m.host.dispatcher with
  | none, some d => m.control.asks d.config.stackSize m.mapping
  | _, _ => none

def Chronicle.next (r : Chronicle) (m : Machine) : Chronicle where
  acts := fun actor => r.acts actor ++ if m.control.actor = actor then m.act.toList else []
  asked := r.asked ++ m.asks.toList
  decisions := r.decisions + m.decides.toNat

theorem Chronicle.next_acts_of_silent {r : Chronicle} {m : Machine} (silent : m.act = none) :
    (r.next m).acts = r.acts := by
  funext actor
  simp [next, silent]

/-- What a thread did so far is what its program says, and what it has still to do is the rest. -/
structure Loyal (main : List Instr) (programs : List (List Instr)) (acts : Actor → List Act)
    (r : Resident Control) : Prop where
  regular : r.work.isRegular
  follows : Follows (script main programs r.entry) (acts (holder r.stack))
    (r.work.plan (script main programs r.entry))

namespace Machine

variable {A : Actor → Option Nat → Prop} {actor : Actor} {m m' : Machine}
  {d d' : Dispatcher Control} {main : List Instr} {programs : List (List Instr)}
  {start : Bench Unit} {r : Chronicle}

def chronicle (m : Machine) : Nat → Chronicle
  | 0 => ⟨fun _ => [], [], 0⟩
  | n + 1 => (chronicle m n).next (run n m)

theorem act_eq_none_of_kernel (kernel : m.control.inKernel) : m.act = none := by
  cases acts : m.act with
  | none => rfl
  | some a => simp [act_outside acts] at kernel

/-- Whoever asks nothing of the scheduler makes no decision. -/
theorem decides_idle (dispatcher : m.host.dispatcher = some d)
    (idle : m.control.asks d.config.stackSize m.mapping = none) : m.decides = false := by
  unfold decides
  split
  · next control => simp [control, Control.asks] at idle
  · next d' _ _ _ _ here control =>
    rw [dispatcher, Option.some.injEq] at here
    subst here
    rw [control, Control.asks] at idle
    rw [idle]
  · rfl

/-- The counter counts decisions. -/
theorem total_dispatched {op : Op} {back next : Control} {given freed : Option Stack}
    {s : Scheduler Control} {W : Control → Prop} (live : m.ending = none)
    (dispatcher : m.host.dispatcher = some d)
    (asked : m.control.asks d.config.stackSize m.mapping = some op)
    (table : Scheduler.Dispatch (primeControl d.generation) W d.scheduler op back given freed s
      next) : s.total = d.scheduler.total + m.decides.toNat := by
  unfold Control.asks at asked
  split at asked
  · next request _ _ _ control =>
    obtain ⟨_, undecided⟩ := Request.op_ordinary asked
    cases table with
    | quiet _ _ _ applied effect quiet =>
      have decides : m.decides = false := by
        simp [decides, live, dispatcher, control, asked, applied, quiet]
      rw [decides, (effect.keeps undecided).2]
      rfl
    | ticked => exact absurd rfl undecided
    | yielded _ applied effect due _ dec _ _ exchange =>
      have decides : m.decides = true := by
        simp [decides, live, dispatcher, control, asked, applied, due]
      rw [decides, exchange.total, dec.total, (effect.keeps undecided).2]
      rfl
  · next control =>
    cases Option.some.inj asked
    have decides : m.decides = true := by simp [decides, live, dispatcher, control]
    cases table with
    | quiet _ _ asked => exact absurd rfl asked
    | ticked _ dec _ _ exchange =>
      rw [decides, exchange.total, dec.total]
      rfl
    | yielded _ _ effect due => exact absurd rfl (effect.not_schedule_of_due due)
  · simp at asked

/-- The slot of a live thread belongs to somebody. -/
theorem Hosted.tenant (hosted : Hosted A m d) {i : Tid} {t : Thread Control}
    (slot : d.scheduler.threads[i]? = some t) (live : t.state ≠ .unused) :
    ∃ actor, A actor t.entry ∧ Tenant d.generation i t.stack actor := by
  obtain ⟨r, found, ⟨actor, among, tenant, _⟩, _⟩ := hosted.peopled i t slot live
  obtain ⟨stack, entry⟩ := Scheduler.resident_thread slot found
  rw [stack] at tenant
  rw [entry] at among
  exact ⟨actor, among, tenant⟩

/-- The chronicle is true of a process with one dispatcher and regular programs. -/
structure Tracked (main : List Instr) (programs : List (List Instr)) (start : Bench Unit)
    (r : Chronicle) (m : Machine) (d : Dispatcher Control) : Prop where
  hosted : Hosted Numbered m d
  first : d.generation = 0
  code : m.programs = programs
  regular : ∀ program ∈ programs, areRegular program
  quiet : m.host.signal.pending = false
  fits : ¬ Stack.Oversized d.config.stackSize
  tidy : m.host.Tidy
  total : d.scheduler.total = r.decisions + 1
  loyal : d.scheduler.Peopled (fun _ => Loyal main programs r.acts) (fun c => c.awaits) m.control
  unborn : ∀ base, m.host.nextBase ≤ base → r.acts (.spawned 0 base) = []
  disciplined : ∃ steps, Run (fun _ _ => none) start steps
      ⟨{ d.scheduler.outline with parked := none }, none⟩ ∧ steps.map Step.op = r.asked

namespace Tracked

variable (tracked : Tracked main programs start r m d)
include tracked

theorem asks_eq : m.asks = m.control.asks d.config.stackSize m.mapping := by
  simp [asks, tracked.hosted.live, tracked.hosted.dispatcher]

/-- Nothing else goes down while nobody asks anything of the scheduler. -/
theorem next_idle (idle : m.control.asks d.config.stackSize m.mapping = none) :
    (r.next m).asked = r.asked ∧ (r.next m).decisions = r.decisions := by
  have asks : m.asks = none := tracked.asks_eq.trans idle
  constructor
  · simp [Chronicle.next, asks]
  · simp [Chronicle.next, decides_idle tracked.hosted.dispatcher idle]

theorem tenant {i : Tid} {t : Thread Control} (slot : d.scheduler.threads[i]? = some t)
    (live : t.state ≠ .unused) : Tenant 0 i t.stack (holder t.stack) := by
  obtain ⟨actor, _, tenant⟩ := tracked.hosted.tenant slot live
  rw [tracked.first] at tenant
  exact tenant.holder_eq ▸ tenant

/-- The running thread is alive, and loyal. -/
theorem current {t : Thread Control} (slot : d.scheduler.threads[d.scheduler.current]? = some t) :
    t.state ≠ .unused ∧ Loyal main programs r.acts ⟨t.stack, t.entry, m.control⟩ := by
  obtain ⟨t', slot', running, loyal⟩ := tracked.loyal.current tracked.hosted.runs
  rw [slot, Option.some.injEq] at slot'
  subst slot'
  exact ⟨by simp [running], loyal⟩

/-- There never was another dispatcher. -/
theorem own_generation {generation base : Nat} {tid : Tid} {stack : Option Stack}
    (tenant : Tenant d.generation tid stack (.spawned generation base)) :
    generation = d.generation := by
  rcases tenant.place with ⟨same, _⟩ | ⟨older, _⟩
  · exact same
  · exact absurd (tracked.first ▸ older) (Nat.not_lt_zero _)

/-- Two slots belong to two threads. -/
theorem holders_differ {i j : Tid} {t u : Thread Control}
    (at_i : d.scheduler.threads[i]? = some t) (live : t.state ≠ .unused)
    (at_j : d.scheduler.threads[j]? = some u) (alive : u.state ≠ .unused) (differ : i ≠ j) :
    holder t.stack ≠ holder u.stack := by
  rcases (tracked.tenant at_i live).stack_cases with ⟨none_i, _, main_i⟩ | ⟨a, _, own, _⟩ <;>
    rcases (tracked.tenant at_j alive).stack_cases with ⟨none_j, _, main_j⟩ | ⟨b, _, other, _⟩
  · exact absurd (main_i.trans main_j.symm) differ
  · simp [none_i, other, holder]
  · simp [none_j, own, holder]
  · have apart := tracked.tidy.apart tracked.hosted.dispatcher at_i at_j own other differ
    simpa [own, other, holder] using apart

/-- Whoever lives in the table was mapped a stack before. -/
theorem holder_lt {i : Tid} {t : Thread Control} (slot : d.scheduler.threads[i]? = some t)
    {g base : Nat} (same : holder t.stack = .spawned g base) : base < m.host.nextBase := by
  cases own : t.stack with
  | none => simp [own, holder] at same
  | some stack =>
    simp only [own, holder, Actor.spawned.injEq] at same
    exact same.2 ▸ tracked.tidy.base_lt tracked.hosted.dispatcher slot own

theorem acting {a : Act} (acts : m.act = some a) {t : Thread Control}
    (slot : d.scheduler.threads[d.scheduler.current]? = some t) :
    m.control.actor = holder t.stack := by
  obtain ⟨t', slot', _, tenant⟩ := tracked.hosted.acts acts
  rw [slot, Option.some.injEq] at slot'
  subst slot'
  rw [tracked.first] at tenant
  exact tenant.holder_eq

/-- The act goes down for the running thread. -/
theorem acts_own {t : Thread Control}
    (slot : d.scheduler.threads[d.scheduler.current]? = some t) :
    (r.next m).acts (holder t.stack) = r.acts (holder t.stack) ++ m.act.toList := by
  cases acts : m.act with
  | none => simp [Chronicle.next, acts]
  | some a => simp [Chronicle.next, acts, tracked.acting acts slot]

/-- It goes down for nobody else. -/
theorem acts_other {actor : Actor}
    (other : ∀ t, d.scheduler.threads[d.scheduler.current]? = some t → holder t.stack ≠ actor) :
    (r.next m).acts actor = r.acts actor := by
  cases acts : m.act with
  | none => simp [Chronicle.next, acts]
  | some a =>
    obtain ⟨t, slot, _⟩ := tracked.hosted.acts acts
    simp [Chronicle.next, tracked.acting acts slot, other t slot]

/-- The running thread goes on by itself. -/
theorem next_own {t : Thread Control} (slot : d.scheduler.threads[d.scheduler.current]? = some t)
    (idle : m.control.asks d.config.stackSize m.mapping = none)
    (goes : Goes (script main programs t.entry) m m.step) (kept : m.Undisturbed m.step)
    (hosted : Hosted Numbered m.step d) : Tracked main programs start (r.next m) m.step d where
  hosted := hosted
  first := tracked.first
  code := kept.programs.trans tracked.code
  regular := tracked.regular
  quiet := goes.quiet
  fits := tracked.fits
  tidy := tracked.hosted.grown.tidy tracked.tidy
  total := by rw [(tracked.next_idle idle).2, tracked.total]
  loyal := by
    intro i u at_i live
    by_cases here : i = d.scheduler.current
    · subst here
      rw [slot, Option.some.injEq] at at_i
      subst at_i
      refine ⟨_, Scheduler.resident_current slot live, ⟨goes.regular, ?_⟩,
        fun other => absurd rfl other⟩
      rw [tracked.acts_own slot]
      exact goes.follows _ (tracked.current slot).2.follows
    · -- the act is another thread's, since no two live on one stack
      obtain ⟨w, found, loyal, waits⟩ := tracked.loyal i u at_i live
      obtain ⟨stack, _⟩ := Scheduler.resident_thread at_i found
      rw [Scheduler.resident_waiting at_i live here] at found
      refine ⟨w, by rw [Scheduler.resident_waiting at_i live here, found], ⟨loyal.regular, ?_⟩,
        waits⟩
      rw [tracked.acts_other]
      · exact loyal.follows
      · intro t' slot'
        rw [slot, Option.some.injEq] at slot'
        subst slot'
        rw [stack]
        exact tracked.holders_differ slot (tracked.current slot).1 at_i live (Ne.symm here)
  unborn := by
    intro base above
    rw [kept.nextBase] at above
    rw [tracked.acts_other, tracked.unborn base above]
    intro t' slot' same
    have below := tracked.holder_lt slot' same
    omega
  disciplined := by
    rw [(tracked.next_idle idle).1]
    exact tracked.disciplined

/-- The scheduler does what is asked of it. -/
theorem next_dispatched {op : Op} {back : Control} {given freed : Option Stack}
    {s : Scheduler Control} {timer : Timer} {period : Nat}
    (asked : m.control.asks d.config.stackSize m.mapping = some op)
    (parked : d.scheduler.parked = none)
    (table : Scheduler.Dispatch (primeControl d.generation) (fun c => c.awaits) d.scheduler op back
      given freed s m.step.control)
    (served : op ≠ .terminate d.scheduler.current → m.control.Served back)
    (same : m.step.programs = m.programs)
    (host : m.step.host =
      { m.host with
        dispatcher := some { d.publish s with timer }
        signal := { m.host.signal with period }
        nextBase := given.elim m.host.nextBase Stack.top
        unmapped := freed.toList ++ m.host.unmapped })
    (hosted : Hosted Numbered m.step { d.publish s with timer }) :
    Tracked main programs start (r.next m) m.step { d.publish s with timer } := by
  have silent : m.act = none := act_eq_none_of_kernel (Control.asks_inKernel asked)
  have acts := Chronicle.next_acts_of_silent (r := r) silent
  refine
    { hosted
      first := tracked.first
      code := same.trans tracked.code
      regular := tracked.regular
      quiet := by rw [host]; exact tracked.quiet
      fits := tracked.fits
      tidy := tracked.hosted.grown.tidy tracked.tidy
      total := ?_
      loyal := ?_
      unborn := ?_
      disciplined := ?_ }
  · have total := total_dispatched tracked.hosted.live tracked.hosted.dispatcher asked table
    rw [tracked.total] at total
    exact total.trans (Nat.add_right_comm ..)
  · rw [acts]
    refine table.peopled tracked.hosted.coherent tracked.hosted.runs tracked.loyal
      (fun _ _ _ loyal => loyal) ?_ ?_
    · intro stays t slot
      have loyal := (tracked.current slot).2
      obtain ⟨plan, regular⟩ : back.plan (script main programs t.entry) = _ ∧ _ :=
        (served stays).plan_eq
      exact ⟨regular loyal.regular, plan ▸ loyal.follows⟩
    · -- the stack of a fresh thread is new, so nothing has gone down for it yet
      rintro i program size map stack rfl request spawned
      rw [(Control.asks_spawn asked).2] at request
      refine ⟨_, rfl, ⟨rfl, ?_⟩, rfl⟩
      simp only [holder]
      rw [tracked.unborn _ (Nat.le_of_eq (Stack.request_mapUnless request).1.symm)]
      exact .begin
  · intro base above
    rw [acts]
    exact tracked.unborn base (Nat.le_trans tracked.hosted.grown.higher above)
  · obtain ⟨steps, run, so_far⟩ := tracked.disciplined
    obtain ⟨step, valid, before, op_eq, after⟩ :=
      table.step tracked.hosted.coherent tracked.hosted.runs parked
    have goes : Run (fun _ _ => none) step.outline.before [step.outline] step.outline.after :=
      .step valid.outline (.stop _)
    have from_here : step.outline.before =
        ⟨{ d.scheduler.outline with parked := none }, none⟩ := by
      rw [Step.outline, before, Scheduler.outline_unparked parked]
      rfl
    have to_there : step.outline.after = ⟨{ s.outline with parked := none }, none⟩ := after
    rw [from_here, to_there] at goes
    refine ⟨steps ++ [step.outline], Scheduler.Run.append_iff.mpr ⟨_, run, goes⟩, ?_⟩
    have op_eq : step.outline.op = op := op_eq
    simp [Chronicle.next, tracked.asks_eq, asked, so_far, op_eq]

/-- The stack of a thread that ended itself is given back. -/
theorem next_reaped {rest : Control} (control : m.control = .reap :: rest) (eq : m.step =
      { m with
        host :=
          { m.host with
            dispatcher := some { d with scheduler := { d.scheduler with parked := none } }
            unmapped := d.scheduler.parked.toList ++ m.host.unmapped }
        control := rest })
    (hosted : Hosted Numbered m.step
      { d with scheduler := { d.scheduler with parked := none } }) :
    Tracked main programs start (r.next m) m.step
      { d with scheduler := { d.scheduler with parked := none } } := by
  have idle : m.control.asks d.config.stackSize m.mapping = none := by rw [control]; rfl
  have silent : m.act = none := act_eq_none_of_kernel (by rw [control]; rfl)
  have acts := Chronicle.next_acts_of_silent (r := r) silent
  refine
    { hosted
      first := tracked.first
      code := by rw [eq]; exact tracked.code
      regular := tracked.regular
      quiet := by rw [eq]; exact tracked.quiet
      fits := tracked.fits
      tidy := tracked.hosted.grown.tidy tracked.tidy
      total := ?_
      loyal := ?_
      unborn := by rw [acts, eq]; exact tracked.unborn
      disciplined := ?_ }
  · rw [(tracked.next_idle idle).2]
    exact tracked.total
  · rw [acts, eq]
    refine tracked.loyal.becomes (fun _ _ _ loyal => loyal) fun t slot _ => ?_
    have loyal := (tracked.current slot).2
    rw [control] at loyal
    refine ⟨isRegular_tail loyal.regular, ?_⟩
    have plan : rest.plan (script main programs t.entry) =
        Control.plan (script main programs t.entry) (.reap :: rest) := by
      obtain ⟨_, _, _, _, _, shape⟩ := tracked.hosted.current_slot
      rw [control] at shape
      cases shape with
      | calm calm => exact absurd calm.outside (by simp [Control.inKernel])
      | reap calm => exact calm.plan_eq
      | arrive => rfl
    exact plan ▸ loyal.follows
  · rw [(tracked.next_idle idle).1]
    exact tracked.disciplined

/-- There is a number for the next decision, and no stack is too large. -/
theorem enough (few : (r.next m).decisions < wordMax) :
    ¬ ((wordMax ≤ d.scheduler.total ∧ m.decides) ∨ Stack.Oversized d.config.stackSize) := by
  rintro (⟨full, decides⟩ | oversized)
  · rw [tracked.total] at full
    simp only [Chronicle.next, decides, Bool.toNat_true] at few
    omega
  · exact tracked.fits oversized

theorem goes_calm {t : Thread Control}
    (slot : d.scheduler.threads[d.scheduler.current]? = some t)
    (tenant : Tenant d.generation d.scheduler.current t.stack actor)
    (calm : Calm actor m.control) : (m.act = none ∧ m.step.ending = some .done) ∨
      Goes (script main programs t.entry) m m.step := by
  refine goes calm tracked.hosted.live tracked.quiet (tracked.current slot).2.regular
    tracked.hosted.dispatcher ?_
  rintro generation base rfl
  exact tracked.own_generation tenant

/-- The running thread's own work keeps it loyal. -/
theorem goes_advanced {t : Thread Control}
    (slot : d.scheduler.threads[d.scheduler.current]? = some t) (live : m'.ending = none)
    (pending : m'.host.signal.pending = m.host.signal.pending)
    (advances : m.control.Advances m.programs (d.scheduler.entryOf d.scheduler.current)
      m'.control) : Goes (script main programs t.entry) m m' := by
  have entry : d.scheduler.entryOf d.scheduler.current = t.entry := by
    simp [Scheduler.entryOf, slot]
  have own : ∀ e, t.entry = some e →
      script main programs t.entry = (programs[e]?).getD [] ∧
        areRegular (script main programs t.entry) := by
    intro e program
    rw [program]
    refine ⟨rfl, ?_⟩
    cases found : programs[e]? with
    | none => simp [script, found, areRegular]
    | some program =>
      simpa [script, found] using tracked.regular program (List.mem_of_getElem? found)
  have spawned : ∀ generation base guard, m.control = [.fetch generation base guard] →
      t.entry.isSome := by
    intro generation base guard control
    obtain ⟨_, _, _, _, _, shape⟩ := tracked.hosted.current_slot
    rw [control] at shape
    cases shape with
    | calm calm => exact absurd calm.outside (by simp [Control.inKernel])
    | fetch _ _ spawned =>
      exact ((tracked.hosted.coherent.slots _ t slot).entry (Nat.pos_of_ne_zero spawned)).mpr
        (tracked.current slot).1
  rw [entry, tracked.code] at advances
  obtain ⟨plan, regular⟩ := advances.plan_eq own spawned
  exact
    { live
      quiet := pending.trans tracked.quiet
      regular := regular (tracked.current slot).2.regular
      follows := by
        rw [act_eq_none_of_kernel advances.inKernel, plan]
        simp }

end Tracked

/-- A process that is tracked, or is about to end as it should, or has. -/
inductive Course (main : List Instr) (programs : List (List Instr)) (start : Bench Unit)
    (r : Chronicle) (m : Machine) : Prop where
  | tracked (d : Dispatcher Control) (tracked : Tracked main programs start r m d)
  | handedOver (d : Dispatcher Control) (handed : HandedOver m d)
  | leaving (live : m.ending = none) (nobody : m.host.dispatcher = none)
      (quiet : m.host.signal.pending = false) (regular : m.control.isRegular)
      (leaving : Leaving m.control)
  | ended (how : m.ending = some .done ∨ m.ending = some .exited)

theorem Tracked.step (tracked : Tracked main programs start r m d)
    (few : (r.next m).decisions < wordMax) : Course main programs start (r.next m) m.step := by
  have hosted := tracked.hosted
  obtain ⟨t, actor, slot, among, tenant, shape⟩ := hosted.current_slot
  have loyal := (tracked.current slot).2
  cases hosted.transition tenant shape with
  | own how idle kept live shape' waits masked =>
    have goes : Goes (script main programs t.entry) m m.step := by
      rcases how with calm | ⟨pending, advances⟩
      · exact (tracked.goes_calm slot tenant calm).resolve_left (by simp [live])
      · exact tracked.goes_advanced slot live pending advances
    exact .tracked d (tracked.next_own slot idle goes kept
      (hosted.next_own slot among tenant kept live shape' (hosted.parked.imp_right waits) masked))
  | quits calm kept ended =>
    rcases tracked.goes_calm slot tenant calm with ⟨_, done⟩ | goes
    · exact .ended (.inl done)
    · simp [goes.live] at ended
  | failed f parked reason eq => exact absurd reason (tracked.enough few)
  | dispatched timer period asked parked table served same live host =>
    exact .tracked _ (tracked.next_dispatched asked parked table served same host
      (hosted.next_dispatched slot among tenant shape asked parked table served live host))
  | reaped control shape' eq =>
    exact .tracked _ (tracked.next_reaped control eq
      (hosted.next_reaped slot among tenant control shape' eq))
  | installed control =>
    have regular := loyal.regular
    simp [control, Control.isRegular, Frame.isRegular] at regular
  | disposed signal quiet control _ programs live host control' =>
    have regular := loyal.regular
    rw [control] at shape regular
    refine .leaving live (by rw [host]) (by rw [host]; exact quiet tracked.quiet) ?_ ?_
    · rw [control']
      exact isRegular_tail regular
    · rw [control']
      exact Shape.leaving shape
  | exited _ _ _ ending => exact .ended (.inr ending)
  | handedOver kernel spawned at_main stored _ current shutdown _ _ live host =>
    exact .handedOver _
      (hosted.next_handedOver kernel spawned at_main stored current shutdown live host)

/-- A dispatcher that is ended by the end of the main program leaves nothing behind. -/
theorem leaving_step (live : m.ending = none) (nobody : m.host.dispatcher = none)
    (quiet : m.host.signal.pending = false) (regular : m.control.isRegular)
    (leaving : Leaving m.control) : Course main programs start r m.step := by
  have still := still_of_quiet quiet
  generalize control : m.control = c at leaving
  rw [control] at regular
  cases leaving with
  | restore guard leaving =>
    rw [step_of_frame live still control]
    exact .leaving live nobody quiet (isRegular_tail regular) leaving
  | preempt guard leaving =>
    rw [step_of_frame live still control]
    simp only [work, Machine.preempt, nobody]
    exact .leaving live nobody quiet (isRegular_tail regular) leaving
  | closed => simp [Control.isRegular, Frame.isRegular] at regular
  | quit =>
    rw [step_of_frame live still control]
    exact .ended (.inl rfl)

theorem Course.step (course : Course main programs start r m)
    (few : (r.next m).decisions < wordMax) : Course main programs start (r.next m) m.step := by
  cases course with
  | tracked d tracked => exact tracked.step few
  | handedOver d handed => exact .ended (.inr handed.step.1)
  | leaving live nobody quiet regular leaving =>
    exact leaving_step live nobody quiet regular leaving
  | ended how =>
    have same : m.step = m := by
      rcases how with done | exited
      · exact step_of_ended done
      · exact step_of_ended exited
    exact .ended (same.symm ▸ how)

end Machine

end RoundRobin
