import RoundRobin.Proofs.Host.Install
import RoundRobin.Proofs.Host.Requests
import RoundRobin.Proofs.Machine.Solo
import RoundRobin.Proofs.Scheduler.Dispatch

/-!
# One step of a process with a dispatcher

`Hosted` is what holds between two steps while a dispatcher is in charge: the table is coherent,
what is published is what the scheduler says, and the control of every live thread, the running
one's and the stored ones', has the shape of the thread that the slot belongs to. `Transition` lists
what a step can do then, in terms of the scheduler; `Hosted.transition` shows that the list is
complete.
-/

namespace RoundRobin

open Scheduler (Op Bench Dispatch)

/-- Whom a slot belongs to, by its number and its stack. A slot other than the main thread's belongs
to the thread spawned there; the main thread's to the thread that the process began with, or to one
that an earlier dispatcher spawned, if that one has started over. -/
inductive Tenant (generation : Nat) : Tid → Option Stack → Actor → Prop where
  | main : Tenant generation 0 none .main
  | adopted {older : Nat} (stack : Stack) (before : older < generation) :
      Tenant generation 0 (some stack) (.spawned older stack.base)
  | spawned {tid : Tid} (stack : Stack) (other : tid ≠ 0) :
      Tenant generation tid (some stack) (.spawned generation stack.base)

/-- A spawned thread lives in a slot of its dispatcher's, or as the main thread of a later one. -/
theorem Tenant.place {generation g base : Nat} {tid : Tid} {stack : Option Stack}
    (tenant : Tenant generation tid stack (.spawned g base)) :
    (g = generation ∧ tid ≠ 0) ∨ (g < generation ∧ tid = 0) := by
  cases tenant with
  | adopted stack before => exact .inr ⟨before, rfl⟩
  | spawned stack other => exact .inl ⟨rfl, other⟩

/-- Whoever starts over takes its stack along. -/
theorem Tenant.again {generation later : Nat} {tid : Tid} {actor : Actor} {stack : Option Stack}
    (tenant : Tenant generation tid stack actor) (older : generation < later) :
    Tenant later 0 stack actor := by
  cases tenant with
  | main => exact .main
  | adopted stack before => exact .adopted stack (Nat.lt_trans before older)
  | spawned stack other => exact .adopted stack older

/-- A thread runs on a stack of the library's unless it is the one that the process began with. -/
theorem Tenant.stack_cases {generation : Nat} {tid : Tid} {own : Option Stack} {actor : Actor}
    (tenant : Tenant generation tid own actor) :
    (own = none ∧ actor = .main ∧ tid = 0) ∨
      ∃ stack g, own = some stack ∧ actor = .spawned g stack.base ∧ g ≤ generation := by
  cases tenant with
  | main => exact .inl ⟨rfl, rfl, rfl⟩
  | adopted stack before => exact .inr ⟨stack, _, rfl, rfl, Nat.le_of_lt before⟩
  | spawned stack other => exact .inr ⟨stack, _, rfl, rfl, Nat.le_refl _⟩

/-- The thread in the slot, with its program, is among `A` and goes on with a control of its own. -/
def Lives (A : Actor → Option Nat → Prop) (generation : Nat) (tid : Tid) (r : Resident Control) :
    Prop :=
  ∃ actor, A actor r.entry ∧ Tenant generation tid r.stack actor ∧ Shape tid actor r.work

theorem Stack.request_mapUnless {objections : Objections} {base usable : Nat} {stack : Stack}
    (request : Stack.request (mapUnless objections base) usable = .ok (.ok stack)) :
    stack.base = base ∧ stack.base < stack.top := by
  obtain ⟨given, length⟩ := Stack.request_inv request
  rw [mapUnless] at given
  split at given
  · simp at given
  · refine ⟨(Except.ok.inj given).symm, ?_⟩
    rw [Stack.top, length]
    exact Nat.lt_add_of_pos_right (Nat.zero_lt_succ _)

/-- Whoever is spawned from now on is among `A`, and whoever starts over stays there. -/
structure Admits (A : Actor → Option Nat → Prop) (generation nextBase : Nat) : Prop where
  fresh : ∀ g b entry, generation ≤ g → nextBase ≤ b → A (.spawned g b) entry
  again : ∀ actor entry, A actor entry → A actor none

theorem Admits.mono {A : Actor → Option Nat → Prop}
    {generation generation' nextBase nextBase' : Nat} (admits : Admits A generation nextBase)
    (later : generation ≤ generation') (higher : nextBase ≤ nextBase') :
    Admits A generation' nextBase' where
  fresh := fun g b entry hg hb =>
    admits.fresh g b entry (Nat.le_trans later hg) (Nat.le_trans higher hb)
  again := admits.again

namespace Control

def asks (stackSize : Nat) (map : Nat → Except OsError Nat) : Control → Option Op
  | .perform r _ _ :: _ => r.op stackSize map
  | .preempt _ :: _ => some .schedule
  | _ => none

/-- What a thread goes on with after the scheduler has done what came first. -/
inductive Served : Control → Control → Prop where
  | answered (r : Request) (guard : Guard) (did : Deed) (a : Answer) (rest : Control) :
      Served (.perform r guard (.program did) :: rest)
        (.restore guard :: .note did (.answer a) :: rest)
  | suspended (r : Request) (guard : Guard) (did : Deed) (rest : Control) :
      Served (.perform r guard (.program did) :: rest)
        (.reap :: .restore guard :: .note did (.answer .done) :: rest)
  | preempted (guard : Guard) (rest : Control) :
      Served (.preempt guard :: rest) (.reap :: .restore guard :: rest)

/-- What a thread goes on with after a piece of the library's work that concerns nobody else: a look
at the table, or the way to its program when it is fresh. -/
inductive Advances (programs : List (List Instr)) (entry : Option Nat) : Control → Control → Prop
    where
  | served {c c' : Control} (served : Served c c') : Advances programs entry c c'
  | start (generation base : Nat) (guard : Guard) (inside : guard.saved) :
      Advances programs entry [.start generation base] [.reap, .fetch generation base guard]
  | fetch (generation base : Nat) (guard : Guard) :
      Advances programs entry [.fetch generation base guard]
        (.restore guard :: .unmask :: match entry with
          | some program =>
            [.note .started .nothing, .run ((programs[program]?).getD []),
              .returned generation base]
          | none => [.finish generation base])

theorem Served.inKernel {c c' : Control} (served : c.Served c') : c.inKernel := by
  cases served <;> rfl

theorem Advances.inKernel {programs : List (List Instr)} {entry : Option Nat} {c c' : Control}
    (advances : c.Advances programs entry c') : c.inKernel := by
  cases advances with
  | served served => exact served.inKernel
  | start | fetch => rfl

/-- A spawn asks for the size that is set, of the system that there is. -/
theorem asks_spawn {c : Control} {stackSize size : Nat} {map given : Nat → Except OsError Nat}
    {entry : Option Nat} (asked : c.asks stackSize map = some (.spawn entry size given)) :
    size = stackSize ∧ given = map := by
  unfold asks at asked
  split at asked
  · next r _ _ _ =>
    cases r <;> simp only [Request.op, Option.some.injEq, reduceCtorEq] at asked
    obtain ⟨_, rfl, rfl⟩ := asked
    exact ⟨rfl, rfl⟩
  · simp at asked
  · simp at asked

/-- Decisions are asked for by ticks only. -/
theorem preempt_of_asks {c : Control} {stackSize : Nat} {map : Nat → Except OsError Nat}
    (asked : c.asks stackSize map = some .schedule) :
    ∃ guard rest, c = .preempt guard :: rest := by
  unfold asks at asked
  split at asked
  · exact absurd rfl (Request.op_ordinary asked).2
  · exact ⟨_, _, rfl⟩
  · simp at asked

theorem asks_inKernel {c : Control} {stackSize : Nat} {map : Nat → Except OsError Nat} {op : Op}
    (asked : c.asks stackSize map = some op) : c.inKernel := by
  unfold asks at asked
  split at asked
  · rfl
  · rfl
  · simp at asked

theorem Served.shape {actor : Actor} {tid : Tid} {c back : Control} (served : c.Served back)
    (shape : Shape tid actor c) (own : c.inKernel) :
    Shape tid actor back := by
  cases served with
  | answered r guard did a rest =>
    cases shape with
    | calm calm => simp [calm.outside] at own
    | perform _ _ _ user => exact .calm (.user (.restore _ (.note _ _ user)))
  | suspended r guard did rest =>
    cases shape with
    | calm calm => simp [calm.outside] at own
    | perform _ _ _ user => exact .reap (.user (.restore _ (.note _ _ user)))
  | preempted guard rest =>
    cases shape with
    | calm calm => simp [calm.outside] at own
    | preempt _ calm => exact .reap (.restore _ calm)

end Control

theorem Calm.asks_eq {actor : Actor} {c : Control} (calm : Calm actor c)
    {stackSize : Nat} {map : Nat → Except OsError Nat} : c.asks stackSize map = none := by
  cases asked : c.asks stackSize map with
  | none => rfl
  | some op => exact absurd (Control.asks_inKernel asked) (by simp [calm.outside])

namespace Machine

def mapping (m : Machine) : Nat → Except OsError Nat := m.host.mapping m.objections

/-- Whether the next step makes a decision, or tries to. -/
def decides (m : Machine) : Bool :=
  match m.ending, m.host.dispatcher, m.control with
  | none, some _, .preempt _ :: _ => true
  | none, some d, .perform r _ _ :: _ =>
    match r.op d.config.stackSize m.mapping with
    | none => false
    | some op =>
      match Bench.apply ⟨d.scheduler, none⟩ (primeControl d.generation) op with
      | .ok (answer, _) => answer.callsForDecision
      | .error _ => false
  | _, _, _ => false

/-- A process with a dispatcher, in which all threads are among `A`. -/
structure Hosted (A : Actor → Option Nat → Prop) (m : Machine) (d : Dispatcher Control) : Prop where
  live : m.ending = none
  dispatcher : m.host.dispatcher = some d
  owner : m.host.owner = some homeThread
  coherent : d.scheduler.Coherent
  runs : d.scheduler.state? d.scheduler.current = some .running
  shownTid : d.shownTid = d.scheduler.current
  shownTotal : d.shownTotal = d.scheduler.total
  shutdown : d.scheduler.shutdown = false
  parked : d.scheduler.parked = none ∨ m.control.awaits
  generation : d.generation < m.host.generation
  admits : Admits A d.generation m.host.nextBase
  peopled : d.scheduler.Peopled (Lives A d.generation) (fun c => c.awaits) m.control
  masked : m.control.inKernel → m.masked

/-- What an operation makes of timer and period. A thread that gives up the processor of its own
accord restarts the quantum, and nothing else does. -/
def Clock (m : Machine) (d : Dispatcher Control) (op : Op) (timer : Timer) (period : Nat) : Prop :=
  (op ≠ .schedule ∧ m.decides ∧ Restarted m.host.signal d.timer timer period) ∨
    ((op = .schedule ∨ m.decides = false) ∧ timer = d.timer ∧ period = m.host.signal.period)

/-- What a step can do while `d` is in charge and `actor` runs. -/
inductive Transition (actor : Actor) (m : Machine) (d : Dispatcher Control) (m' : Machine) :
    Prop where
  /-- The running thread goes on by itself. -/
  | own (how : Calm actor m.control ∨
        (m'.host.signal.pending = m.host.signal.pending ∧
          m.control.Advances m.programs (d.scheduler.entryOf d.scheduler.current) m'.control))
      (idle : m.control.asks d.config.stackSize m.mapping = none) (kept : m.Undisturbed m')
      (live : m'.ending = none) (shape : Shape d.scheduler.current actor m'.control)
      (waits : m.control.awaits → m'.control.awaits) (masked : m'.control.inKernel → m'.masked)
      (covered : m.control.inKernel → m'.masked)
  /-- The process ends by itself. -/
  | quits (calm : Calm actor m.control) (kept : m.Undisturbed m') (ended : m'.ending.isSome)
  /-- A number leaves the words, and the running program fails. -/
  | failed (f : Fault) (parked : d.scheduler.parked = none)
      (reason : (wordMax ≤ d.scheduler.total ∧ m.decides) ∨ Stack.Oversized d.config.stackSize)
      (eq : m' = { m with control := unwind (.fault f) m.control })
      (asked : ∃ op, m.control.asks d.config.stackSize m.mapping = some op ∧
        ((wordMax ≤ d.scheduler.total ∧ m.decides) ∨ op.Oversized))
  /-- The scheduler does what is asked of it. -/
  | dispatched {op : Op} {back : Control} {given freed : Option Stack} {s : Scheduler Control}
      (timer : Timer) (period : Nat)
      (asked : m.control.asks d.config.stackSize m.mapping = some op)
      (parked : d.scheduler.parked = none)
      (table : Dispatch (primeControl d.generation) (fun c => c.awaits) d.scheduler op back given
        freed s m'.control)
      (served : op ≠ .terminate d.scheduler.current → m.control.Served back)
      (programs : m'.programs = m.programs) (live : m'.ending = none)
      (host : m'.host =
        { m.host with
          dispatcher := some { d.publish s with timer }
          signal := { m.host.signal with period }
          nextBase := given.elim m.host.nextBase Stack.top
          unmapped := freed.toList ++ m.host.unmapped })
      (clock : m.Clock d op timer period)
  /-- The stack of a thread that ended itself is given back. -/
  | reaped {rest : Control} (control : m.control = .reap :: rest)
      (shape : Shape d.scheduler.current actor rest) (eq : m' =
        { m with
          host :=
            { m.host with
              dispatcher := some { d with scheduler := { d.scheduler with parked := none } }
              unmapped := d.scheduler.parked.toList ++ m.host.unmapped }
          control := rest })
  /-- The running thread starts over. -/
  | installed {config : Config} {guard : Guard} {did : Deed} {rest : Control} {t : Thread Control}
      {gone : List Stack} {fresh : Scheduler Control} {made : Report Control}
      (control : m.control = .perform (.install config) guard (.program did) :: rest)
      (user : User actor rest)
      (slot : d.scheduler.threads[d.scheduler.current]? = some t)
      (report : m.host.Installed config t.stack gone fresh made)
      (perm : (t.stack.toList ++ gone).Perm d.scheduler.owned)
      (programs : m'.programs = m.programs) (live : m'.ending = none)
      (host : m'.host = made.host)
      (control' : m'.control = .restore guard :: .note did (.answer .done) :: rest)
  /-- The running thread ends the dispatcher. -/
  | disposed {guard : Guard} {rest : Control} {t : Thread Control} (signal : Signal Nat)
      (quiet : m.host.signal.pending = false → signal.pending = false)
      (control : m.control = .dispose guard :: rest)
      (slot : d.scheduler.threads[d.scheduler.current]? = some t)
      (programs : m'.programs = m.programs) (live : m'.ending = none)
      (host : m'.host =
        { m.host with
          dispatcher := none
          signal
          unmapped :=
            (d.scheduler.withStack d.scheduler.current none).releaseAll.1.mappings.reverse ++
              m.host.unmapped })
      (control' : m'.control = .restore guard :: rest) (gate : signal.gate = m.host.signal.gate)
  /-- The main thread ends the process. -/
  | exited (kernel : m.control.inKernel) (main : d.scheduler.current = 0)
      (programs : m'.programs = m.programs) (ending : m'.ending = some .exited)
      (host : m'.host =
        (m.host.teardown { d with scheduler := { d.scheduler with shutdown := true } }).2)
      (asked : m.control.asks d.config.stackSize m.mapping = some (.terminate 0))
  /-- A spawned thread has the main thread end the process. -/
  | handedOver {main : Thread Control} {back : Control} {s : Scheduler Control}
      (kernel : m.control.inKernel) (spawned : d.scheduler.current ≠ 0)
      (slot : d.scheduler.threads[0]? = some main)
      (stored : main.context = some m'.control)
      (threads : s.threads = d.scheduler.threads.set 0 { main with state := .running })
      (current : s.current = 0) (shutdown : s.shutdown = true)
      (parked : s.parked = d.scheduler.parked) (programs : m'.programs = m.programs)
      (live : m'.ending = none)
      (host : m'.host =
        { m.host with
          dispatcher := some
            { d.publish s with scheduler := s.withContext d.scheduler.current back } })
      (asked : m.control.asks d.config.stackSize m.mapping = some (.terminate 0))
      (total : s.total = d.scheduler.total)
      (queue : s.ready.toList = d.scheduler.ready.toList.erase 0)

variable {A : Actor → Option Nat → Prop} {actor : Actor} {m m' : Machine} {d : Dispatcher Control}

/-- Carries out a decision as `Scheduler.Exchange` says. -/
theorem switch_eq {switch : Switch} {back next : Control} {s : Scheduler Control}
    (dispatcher : m.host.dispatcher = some d)
    (carried : switch.isIdle ∧ s = d.scheduler ∧ next = back ∨
      (¬ switch.isIdle ∧ d.scheduler.saveContext switch.source back = .ok s ∧
        s.contextOf switch.target = .ok (some next))) :
    m.switch switch back = { m with host := m.host.putScheduler d s, control := next } := by
  rcases carried with ⟨idle, rfl, rfl⟩ | ⟨busy, saved, found⟩
  · have same : m.host.putScheduler d d.scheduler = m.host := by
      simp only [Host.putScheduler, Host.put, ← dispatcher]
    rw [same, Machine.switch, Host.exchange, if_pos idle]
    rfl
  · simp [Machine.switch, Host.exchange, busy, dispatcher, proceed, saved, found]

/-- A decision that was published and is carried out. -/
theorem Transition.of_switch {op : Op} {back next : Control} {s s' : Scheduler Control}
    {switch : Switch} (timer : Timer) (period : Nat)
    (asked : m.control.asks d.config.stackSize m.mapping = some op)
    (parked : d.scheduler.parked = none)
    (table : Dispatch (primeControl d.generation) (fun c => c.awaits) d.scheduler op back none none
      s' next)
    (served : op ≠ .terminate d.scheduler.current → m.control.Served back)
    (exchange : s.Exchange switch back s' next)
    (carried : switch.isIdle ∧ s' = s ∧ next = back ∨
      (¬ switch.isIdle ∧ s.saveContext switch.source back = .ok s' ∧
        s'.contextOf switch.target = .ok (some next)))
    (programs : m'.programs = m.programs) (live : m'.ending = none)
    (host : m'.host =
      { m.host with
        dispatcher := some { d.publish s with timer }
        signal := { m.host.signal with period } })
    (clock : m.Clock d op timer period) : Transition actor m d (m'.switch switch back) := by
  have dispatcher : m'.host.dispatcher = some { d.publish s with timer } := by rw [host]
  rw [switch_eq dispatcher carried]
  refine .dispatched timer period asked parked table served programs live ?_ clock
  simp only [Host.putScheduler, Host.put, host, Dispatcher.publish, exchange.current,
    exchange.total]
  rfl

namespace Hosted

theorem home (hosted : Hosted A m d) : m.host.owner ≠ some otherThread := by
  simp [hosted.owner, homeThread, otherThread]

/-- A step inside the library is work on its frame. -/
theorem step_eq (hosted : Hosted A m d) {frame : Frame} {rest : Control}
    (control : m.control = frame :: rest) (kernel : m.control.inKernel) :
    m.step = m.work rest frame :=
  step_of_masked hosted.live (hosted.masked kernel) control

theorem unparked (hosted : Hosted A m d) {c : Control} (control : m.control = c)
    (awake : c.awaits = false) : d.scheduler.parked = none := by
  have parked := hosted.parked
  rw [control, awake] at parked
  exact parked.resolve_right (by simp)

/-- The running thread and the slot that it lives in. -/
theorem current_slot (hosted : Hosted A m d) :
    ∃ t actor, d.scheduler.threads[d.scheduler.current]? = some t ∧ A actor t.entry ∧
      Tenant d.generation d.scheduler.current t.stack actor ∧
      Shape d.scheduler.current actor m.control := by
  obtain ⟨t, slot, _, actor, among, tenant, shape⟩ := hosted.peopled.current hosted.runs
  exact ⟨t, actor, slot, among, tenant, shape⟩

/-- The main thread, if it does not run, was switched away from inside the library. -/
theorem main_slot (hosted : Hosted A m d) (spawned : d.scheduler.current ≠ 0)
    {main : Thread Control} (slot : d.scheduler.threads[0]? = some main) :
    ∃ rest, main.context = some (.reap :: rest) := by
  have alive : main.state ≠ .unused := by
    rcases (hosted.coherent.slots 0 main slot).main rfl with running | ready
    · simp [running]
    · simp [ready]
  obtain ⟨r, found, ⟨actor, _, _, shape⟩, awaits⟩ := hosted.peopled 0 main slot alive
  rw [Scheduler.resident_waiting slot alive (Ne.symm spawned)] at found
  obtain ⟨next, stored, rfl⟩ := Option.map_eq_some_iff.mp found
  have waits : next.awaits := awaits (Ne.symm spawned)
  cases shape with
  | calm calm => simp [calm.awake] at waits
  | reap | arrive => exact ⟨_, stored⟩
  | start _ other => exact absurd rfl other
  | _ => simp [Control.awaits] at waits

theorem transition_calm (hosted : Hosted A m d) {t : Thread Control}
    (tenant : Tenant d.generation d.scheduler.current t.stack actor)
    (calm : Calm actor m.control) : Transition actor m d m.step := by
  have owned : m.host.owner ≠ none := by simp [hosted.owner]
  have place : ∀ generation base, actor = .spawned generation base →
      ∃ d', m.host.dispatcher = some d' ∧
        ((generation = d'.generation ∧ d.scheduler.current ≠ 0 ∧
            d'.shownTid = d.scheduler.current) ∨
          (generation ≠ d'.generation ∧ d.scheduler.current = 0)) := by
    rintro generation base rfl
    refine ⟨d, hosted.dispatcher, tenant.place.imp ?_ ?_⟩
    · rintro ⟨same, spawned⟩
      exact ⟨same, spawned, hosted.shownTid⟩
    · rintro ⟨older, main⟩
      exact ⟨Nat.ne_of_lt older, main⟩
  cases Machine.solo calm hosted.live hosted.home place with
  | on kept live shape _ masked =>
    exact .own (.inl calm) calm.asks_eq kept live shape
      (fun waits => absurd waits (by simp [calm.awake])) masked (by simp [calm.outside])
  | quits kept ended => exact .quits calm kept ended
  | claimed unowned => exact absurd unowned owned

/-- A request of the running thread's, made by its program or, if it is to end itself, by the
library. -/
theorem transition_perform (hosted : Hosted A m d) {r : Request} {guard : Guard} {caller : Caller}
    {rest : Control} (control : m.control = .perform r guard caller :: rest)
    (program : r ≠ .terminate d.scheduler.current →
      ∃ did, caller = .program did ∧ User actor rest)
    (other : ∀ config, r ≠ .install config) : Transition actor m d m.step := by
  have kernel : m.control.inKernel := by rw [control]; rfl
  have parked : d.scheduler.parked = none := hosted.unparked control rfl
  have asks : m.control.asks d.config.stackSize m.mapping =
      r.op d.config.stackSize m.mapping := by rw [control]; rfl
  have answers : ∀ (op : Op), r.op d.config.stackSize m.mapping = some op →
      op ≠ .terminate d.scheduler.current → ∃ did, caller = .program did ∧ User actor rest := by
    intro op asked stays
    apply program
    rintro rfl
    exact stays (Option.some.inj asked).symm
  rw [hosted.step_eq control kernel]
  simp only [work, perform]
  have fulfilled : m.host.Fulfilled d m.mapping primeControl r
      (m.host.perform m.objections primeControl r) :=
    Host.fulfilled hosted.dispatcher hosted.coherent hosted.runs other
  generalize m.host.perform m.objections primeControl r = report at fulfilled
  cases fulfilled with
  | looked a looks =>
    obtain ⟨did, rfl, user⟩ := program (by rintro rfl; simp [Request.op] at looks)
    exact .own (.inr ⟨rfl, by rw [control]; exact .served (.answered r guard did a rest)⟩)
      (asks.trans looks) (.same rfl rfl) hosted.live
      (.calm (.user (.restore _ (.note _ _ user)))) (by rw [control]; simp [Control.awaits])
      (fun kernel => absurd kernel Bool.false_ne_true) hosted.masked
  | answered a events asked applied effect quiet goesOn =>
    obtain ⟨ordinary, undecided⟩ := Request.op_ordinary asked
    obtain ⟨current, total⟩ := effect.keeps undecided
    refine .dispatched d.timer m.host.signal.period (asks.trans asked) parked
      (.quiet _ ordinary undecided applied effect quiet goesOn) ?_ rfl hosted.live ?_
      (.inr ⟨.inr ?_, rfl, rfl⟩)
    · intro stays
      obtain ⟨did, rfl, user⟩ := answers _ asked stays
      rw [control]
      exact .answered r guard did a rest
    · simp only [Dispatcher.publish, current, total, ← hosted.shownTid, ← hosted.shownTotal]
      rfl
    · simp [decides, hosted.live, hosted.dispatcher, control, asked, applied, quiet]
  | @yielded op answer mid s switch timer period asked applied effect due decided dec kept
      restarted =>
    obtain ⟨ordinary, undecided⟩ := Request.op_ordinary asked
    let back : Control :=
      if answer = .ended .ownEnd then .reap :: .abort .endedRanAgain :: rest
      else .reap :: caller.conclude guard .done ++ rest
    have waits : back.awaits := by
      simp only [back]
      split <;> rfl
    obtain ⟨s', next, exchange, carried⟩ := dec.exchange (effect.coherent hosted.coherent)
      (Dispatch.mid_peopled effect due hosted.runs hosted.peopled) back
    have served : op ≠ .terminate d.scheduler.current → m.control.Served back := by
      intro stays
      obtain ⟨did, rfl, user⟩ := answers _ asked stays
      have goesOn : answer ≠ .ended .ownEnd := by
        rintro rfl
        cases effect with
        | endedSelf => exact stays rfl
      rw [control]
      simp only [back, if_neg goesOn]
      exact .suspended r guard did rest
    have table : Dispatch (primeControl d.generation) (fun c => c.awaits) d.scheduler op back none
        none s' next :=
      .yielded ordinary applied effect due decided dec kept waits exchange
    have follows : ∀ m' : Machine, m'.follow
        (if answer = .ended .ownEnd then .ends switch else .suspends switch) guard caller rest =
        m'.switch switch back := by
      intro m'
      simp only [back]
      split <;> rfl
    simp only [proceed, follows]
    refine .of_switch timer period (asks.trans asked) parked table served exchange carried rfl
      hosted.live rfl (.inl ⟨undecided, ?_, restarted⟩)
    simp [decides, hosted.live, hosted.dispatcher, control, asked, applied, due]
  | exited asked main events => exact .exited kernel main rfl rfl rfl (by rw [asks, asked]; rfl)
  | @handedOver main s events asked spawned slot threads current shutdown kept total queue =>
    obtain ⟨next, stored⟩ := hosted.main_slot spawned slot
    let back : Control := .abort .ranAfterShutdown :: rest
    have length : s.threads.length = d.scheduler.threads.length := by rw [threads, List.length_set]
    have inside : d.scheduler.current < s.threads.length := length ▸ hosted.coherent.current_lt
    have there : (s.withContext d.scheduler.current back).threads[0]? =
        some { main with state := .running } := by
      rw [Scheduler.withContext_slot, threads,
        List.getElem?_set_self (Nat.zero_lt_of_lt hosted.coherent.current_lt), Option.map_some,
        if_neg spawned]
    have carried : ¬ (⟨d.scheduler.current, 0⟩ : Switch).isIdle ∧
        s.saveContext d.scheduler.current back =
          .ok (s.withContext d.scheduler.current back) ∧
        (s.withContext d.scheduler.current back).contextOf 0 = .ok (some (.reap :: next)) :=
      ⟨by simp [Switch.isIdle, spawned], Scheduler.saveContext_eq inside back,
        by simp [Scheduler.contextOf, Checked.get_eq_ok there, stored]⟩
    simp only [proceed, follow]
    rw [switch_eq (d := d.publish s) rfl (.inr carried)]
    exact .handedOver kernel spawned slot stored threads current shutdown kept rfl hosted.live rfl
      (by rw [asks, asked]; rfl) total queue
  | failed f reason =>
    rcases reason with ⟨full, op, answer, b, asked, applied, due⟩ | ⟨⟨entry, rfl⟩, oversized⟩
    · have tries : m.decides := by
        simp [decides, hosted.live, hosted.dispatcher, control, asked, applied, due]
      exact .failed f parked (.inl ⟨full, tries⟩) rfl ⟨op, asks.trans asked, .inl ⟨full, tries⟩⟩
    · exact .failed f parked (.inr oversized) rfl ⟨_, asks, .inr oversized⟩

theorem transition_install (hosted : Hosted A m d) {config : Config} {guard : Guard} {did : Deed}
    {rest : Control} (control : m.control = .perform (.install config) guard (.program did) :: rest)
    (user : User actor rest) : Transition actor m d m.step := by
  obtain ⟨t, slot⟩ := Scheduler.Coherent.slot_of_lt hosted.coherent.current_lt
  obtain ⟨fresh, gone, made, installed, report, perm⟩ :=
    Host.install_again hosted.dispatcher hosted.coherent.formed slot config
  have performed : m.host.perform m.objections primeControl (.install config) = .ok made :=
    installed
  rw [hosted.step_eq control (by rw [control]; rfl)]
  simp only [work, perform, performed, proceed, report.outcome]
  exact .installed control user slot report perm rfl hosted.live rfl rfl

theorem transition_preempt (hosted : Hosted A m d) {guard : Guard} {rest : Control}
    (control : m.control = .preempt guard :: rest) : Transition actor m d m.step := by
  have parked : d.scheduler.parked = none := hosted.unparked control rfl
  rw [hosted.step_eq control (by rw [control]; rfl)]
  simp only [work, preempt, hosted.dispatcher]
  rcases hosted.coherent.schedule_cases with ⟨switch, s, decided, dec, kept⟩ | ⟨full, fault⟩
  · obtain ⟨s', next, exchange, carried⟩ :=
      dec.exchange hosted.coherent hosted.peopled (.reap :: .restore guard :: rest)
    have rescheduled : m.host.reschedule d false = .ok (switch, m.host.put (d.publish s)) := by
      simp [Host.reschedule, decided]
    simp only [rescheduled, proceed]
    refine .of_switch d.timer m.host.signal.period (by rw [control]; rfl)
      parked (.ticked decided dec kept rfl exchange) ?_ exchange carried rfl hosted.live rfl
      (.inr ⟨.inl rfl, rfl, rfl⟩)
    rw [control]
    exact fun _ => .preempted guard rest
  · have stuck : m.host.reschedule d false = .error (.fault .addOverflow) := by
      simp [Host.reschedule, fault]
    have tries : m.decides := by simp [decides, hosted.live, hosted.dispatcher, control]
    rw [stuck]
    exact .failed .addOverflow parked (.inl ⟨full, tries⟩) rfl
      ⟨.schedule, by rw [control]; rfl, .inl ⟨full, tries⟩⟩

theorem transition_reap (hosted : Hosted A m d) {rest : Control}
    (control : m.control = .reap :: rest) (shape : Shape d.scheduler.current actor rest) :
    Transition actor m d m.step := by
  have given : d.scheduler.parked.toList.reverse = d.scheduler.parked.toList := by
    cases d.scheduler.parked <;> rfl
  rw [hosted.step_eq control (by rw [control]; rfl)]
  refine .reaped control shape ?_
  simp [work, reap, hosted.dispatcher, Host.reap, Scheduler.takeParked, hosted.shutdown, Host.unmap,
    Host.put, given]

theorem transition_dispose (hosted : Hosted A m d) {guard : Guard} {rest : Control}
    (control : m.control = .dispose guard :: rest) : Transition actor m d m.step := by
  obtain ⟨t, slot⟩ := Scheduler.Coherent.slot_of_lt hosted.coherent.current_lt
  obtain ⟨signal, disposed, gate, quiet⟩ := Host.dispose_eq (h := m.host) slot false
  rw [hosted.step_eq control (by rw [control]; rfl)]
  simp only [work, dispose, hosted.dispatcher, disposed, proceed]
  exact .disposed signal quiet control slot rfl hosted.live rfl rfl gate

theorem transition_fetch (hosted : Hosted A m d) {generation base : Nat} {guard : Guard}
    (control : m.control = [.fetch generation base guard])
    (own : actor = .spawned generation base) : Transition actor m d m.step := by
  rw [hosted.step_eq control (by rw [control]; rfl)]
  simp only [work, fetch, hosted.dispatcher, List.append_nil]
  refine .own (.inr ⟨rfl, by rw [control]; exact .fetch generation base guard⟩)
    (by rw [control]; rfl) (.same rfl rfl) hosted.live ?_ (by rw [control]; simp [Control.awaits])
    (fun kernel => absurd kernel Bool.false_ne_true) hosted.masked
  cases d.scheduler.entryOf d.scheduler.current with
  | none => exact .calm (.restore _ (.unmask (.finish own)))
  | some program =>
    exact .calm (.restore _ (.unmask (.user (.note _ _ (.run _ (.returned own))))))

/-- A step does one of the things that are listed. -/
theorem transition (hosted : Hosted A m d) {t : Thread Control}
    (tenant : Tenant d.generation d.scheduler.current t.stack actor)
    (shape : Shape d.scheduler.current actor m.control) : Transition actor m d m.step := by
  generalize control : m.control = c at shape
  cases shape with
  | calm calm => exact hosted.transition_calm tenant (control ▸ calm)
  | perform r guard did user =>
    by_cases starts : ∃ config, r = .install config
    · obtain ⟨config, rfl⟩ := starts
      exact hosted.transition_install control user
    · exact hosted.transition_perform control (fun _ => ⟨did, rfl, user⟩)
        (fun config is => starts ⟨config, is⟩)
  | returning guard spawned =>
    exact hosted.transition_perform control (fun other => absurd rfl other) (by simp)
  | adopted guard main spawned =>
    exact hosted.transition_perform control (fun other => absurd (by rw [main]) other) (by simp)
  | preempt guard calm => exact hosted.transition_preempt control
  | reap calm => exact hosted.transition_reap control (.calm calm)
  | start own spawned =>
    rw [hosted.step_eq control (by rw [control]; rfl)]
    have masked : m.masked := hosted.masked (by rw [control]; rfl)
    exact .own (.inr ⟨rfl, by rw [control]; exact .start _ _ _ masked⟩) (by rw [control]; rfl)
      (.stirred rfl rfl) hosted.live (.arrive _ own spawned) (fun _ => rfl) (fun _ => rfl)
      fun _ => rfl
  | arrive guard own spawned => exact hosted.transition_reap control (.fetch guard own spawned)
  | fetch guard own spawned => exact hosted.transition_fetch control own
  | dispose guard rest => exact hosted.transition_dispose control
  | leave guard main => exact hosted.transition_dispose control

end Hosted

end Machine

end RoundRobin
