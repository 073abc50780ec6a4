import RoundRobin.Proofs.Machine.Transition

/-!
# The phases of a process

A process begins bare, with its main program and no dispatcher. Once something is initialised it is
hosted, and stays so through any number of fresh starts, until it ends: by leaving, when the
dispatcher is ended by a program, or through the main thread, to which the process is handed over.
If another OS thread was first to initialise, the programs of the home thread have nothing to say.

Whatever holds of all threads of a process, and of those that it will spawn, goes on holding.
-/

namespace RoundRobin.Machine

variable {A A' : Actor → Option Nat → Prop} {actor : Actor} {m m' : Machine}
  {d d' : Dispatcher Control}

section Owner

variable {x : OsThread}

theorem proceed_owner {α : Type} {r : Except Halt α} {f : α → Machine}
    (owner : m.host.owner = some x) (goes : ∀ a, r = .ok a → (f a).host.owner = some x) :
    (m.proceed r f).host.owner = some x := by
  cases r with
  | ok a => exact goes a rfl
  | error h => cases h <;> exact owner

theorem switch_owner (owner : m.host.owner = some x) (s : Switch) (back : Control) :
    (m.switch s back).host.owner = some x := by
  refine proceed_owner owner fun taken exchanged => ?_
  obtain ⟨control, host⟩ := taken
  obtain ⟨dispatcher, rfl⟩ := Host.exchange_inv exchanged
  exact owner

theorem perform_owner {r : Request} {guard : Guard} {caller : Caller} {rest : Control}
    (owner : m.host.owner = some x) : (m.perform r guard caller rest).host.owner = some x := by
  refine proceed_owner owner fun report performed => ?_
  have kept : report.host.owner = some x := (Host.perform_owner performed).trans owner
  unfold follow
  split
  · exact kept
  · exact switch_owner kept _ _
  · exact switch_owner kept _ _
  · exact switch_owner kept _ _
  · exact kept

theorem execute_owner {rest : Control} (owner : m.host.owner = some x) (i : Instr) :
    (m.execute rest i).host.owner = some x := by
  cases i with
  | call c =>
    refine proceed_owner owner fun (admission, host) examined => ?_
    have kept : host.owner = some x := by
      rcases m.host.examine_cases homeThread (c.map m.resolve) with
        ⟨f, fault⟩ | ⟨a, answered⟩ | ⟨r, passed, claim⟩
      · simp [fault] at examined
      · rw [answered, Except.ok.injEq, Prod.mk.injEq] at examined
        exact examined.2 ▸ owner
      · rw [passed, Except.ok.injEq, Prod.mk.injEq] at examined
        rw [← examined.2]
        rcases claim with unowned | mine
        · simp [owner] at unowned
        · exact mine.symm.trans owner
    cases admission <;> exact kept
  | foreign c =>
    refine proceed_owner owner fun report called => ?_
    have kept : report.host.owner = some x := by
      rcases m.host.examine_cases otherThread (c.map m.resolve) with
        ⟨f, fault⟩ | ⟨a, answered⟩ | ⟨r, passed, claim⟩
      · simp [Host.call, fault] at called
      · simp only [Host.call, answered, ok_bind, pure_eq_ok, Except.ok.injEq] at called
        exact called ▸ owner
      · rw [Host.call_owner passed called]
        rcases claim with unowned | theirs
        · simp [owner] at unowned
        · exact theirs.symm.trans owner
    dsimp only
    split <;> exact kept
  | fire =>
    simp only [execute, fire]
    split
    · split <;> exact owner
    · exact owner
  | raiseElsewhere =>
    simp only [execute, raiseElsewhere]
    split <;> exact owner
  | _ => exact owner

/-- Who owns the process once will always. -/
theorem step_owner (owner : m.host.owner = some x) : m.step.host.owner = some x := by
  unfold step
  split
  · exact owner
  · split
    · unfold deliver
      dsimp only
      split <;> exact owner
    · split
      · exact owner
      · next frame rest _ =>
        cases frame with
        | run program => cases program <;> [exact owner; exact execute_owner owner _]
        | loop times body => cases times <;> exact owner
        | whileAlive left tid body =>
          cases left with
          | zero => exact owner
          | succ left =>
            simp only [work]
            split <;> exact owner
        | perform r guard caller => exact perform_owner owner
        | preempt guard =>
          simp only [work, preempt]
          split
          · exact owner
          · exact proceed_owner owner fun _ rescheduled =>
              switch_owner ((Host.reschedule_owner rescheduled).trans owner) _ _
        | reap =>
          simp only [work, reap]
          split
          · exact owner
          · split <;> simpa [finish] using owner
        | fetch generation base guard =>
          simp only [work, fetch]
          split <;> exact owner
        | finish generation base =>
          simp only [work, finishThread]
          split
          · exact owner
          · split <;> exact owner
        | dispose guard =>
          simp only [work, dispose]
          split
          · exact owner
          · exact proceed_owner owner fun _ disposed => (Host.dispose_owner disposed).trans owner
        | _ => exact owner

theorem run_owner (owner : m.host.owner = some x) (n : Nat) : (run n m).host.owner = some x := by
  induction n generalizing m with
  | zero => exact owner
  | succ n ih =>
    rw [run_succ]
    exact ih (step_owner owner)

end Owner

/-- What is left to do once the dispatcher was ended. -/
inductive Leaving : Control → Prop where
  | restore {rest : Control} (guard : Guard) (leaving : Leaving rest) :
      Leaving (.restore guard :: rest)
  | preempt {rest : Control} (guard : Guard) (leaving : Leaving rest) :
      Leaving (.preempt guard :: rest)
  | closed (rest : Control) : Leaving (.closed :: rest)
  | quit : Leaving [.quit]

/-- Whoever ends the dispatcher has nothing else left to do. -/
theorem Shape.leaving {tid : Tid} {guard : Guard} {rest : Control}
    (shape : Shape tid actor (.dispose guard :: rest)) : Leaving (.restore guard :: rest) := by
  cases shape with
  | calm calm => exact absurd calm.outside (by simp [Control.inKernel])
  | dispose => exact .restore _ (.closed _)
  | leave => exact .restore _ .quit

/-- No dispatcher has been made yet. -/
structure Bare (A : Actor → Option Nat → Prop) (m : Machine) : Prop where
  live : m.ending = none
  nobody : m.host.dispatcher = none
  home : m.host.owner = none ∨ m.host.owner = some homeThread
  among : A .main none
  admits : Admits A m.host.generation m.host.nextBase
  shape : Shape 0 .main m.control
  awake : m.control.awaits = false
  masked : m.control.inKernel → m.masked
  owned : ∀ r guard did rest, m.control = .perform r guard (.program did) :: rest →
    m.host.owner = some homeThread

/-- The main thread has been switched to in order to end the process. -/
structure HandedOver (m : Machine) (d : Dispatcher Control) : Prop where
  live : m.ending = none
  dispatcher : m.host.dispatcher = some d
  current : d.scheduler.current = 0
  shutdown : d.scheduler.shutdown = true
  reaps : ∃ rest, m.control = .reap :: rest
  masked : m.masked

/-- Every thread that still can do something is among `A`. -/
inductive Phase (A : Actor → Option Nat → Prop) (m : Machine) : Prop where
  | ended (gone : m.ending.isSome)
  | foreign (owner : m.host.owner = some otherThread)
  | bare (bare : m.Bare A)
  | hosted (d : Dispatcher Control) (hosted : Hosted A m d)
  | handedOver (d : Dispatcher Control) (handed : HandedOver m d)
  | leaving (live : m.ending = none) (nobody : m.host.dispatcher = none)
      (leaving : Leaving m.control)

namespace Hosted

/-- A process stays hosted while its table is in order and its residents live on. -/
theorem next (hosted : Hosted A m d) (live : m'.ending = none)
    (dispatcher : m'.host.dispatcher = some d') (owner : m'.host.owner = m.host.owner)
    (generation : m'.host.generation = m.host.generation)
    (same : d'.generation = d.generation) (mapped : m.host.nextBase ≤ m'.host.nextBase)
    (formed : d'.scheduler.Coherent ∧ d'.scheduler.state? d'.scheduler.current = some .running ∧
      d'.scheduler.shutdown = d.scheduler.shutdown)
    (shown : d'.shownTid = d'.scheduler.current ∧ d'.shownTotal = d'.scheduler.total)
    (parked : d'.scheduler.parked = none ∨ m'.control.awaits)
    (peopled : d'.scheduler.Peopled (Lives A d.generation) (fun c => c.awaits) m'.control)
    (masked : m'.control.inKernel → m'.masked) : Hosted A m' d' where
  live := live
  dispatcher := dispatcher
  owner := owner.trans hosted.owner
  coherent := formed.1
  runs := formed.2.1
  shownTid := shown.1
  shownTotal := shown.2
  shutdown := formed.2.2.trans hosted.shutdown
  parked := parked
  generation := by rw [same, generation]; exact hosted.generation
  admits := hosted.admits.mono (Nat.le_of_eq same.symm) mapped
  peopled := same ▸ peopled
  masked := masked

/-- What is true of all live threads, and of those to come, can be kept track of. -/
theorem restrict (hosted : Hosted A m d) (admits : Admits A' d.generation m.host.nextBase)
    (among : ∀ (i : Tid) (t : Thread Control) (actor : Actor), d.scheduler.threads[i]? = some t →
      t.state ≠ .unused → A actor t.entry → Tenant d.generation i t.stack actor →
      A' actor t.entry) : Hosted A' m d where
  live := hosted.live
  dispatcher := hosted.dispatcher
  owner := hosted.owner
  coherent := hosted.coherent
  runs := hosted.runs
  shownTid := hosted.shownTid
  shownTotal := hosted.shownTotal
  shutdown := hosted.shutdown
  parked := hosted.parked
  generation := hosted.generation
  admits := admits
  peopled := by
    intro i t slot live
    obtain ⟨r, found, ⟨actor, old, tenant, shape⟩, waits⟩ := hosted.peopled i t slot live
    obtain ⟨stack, entry⟩ := Scheduler.resident_thread slot found
    refine ⟨r, found, ⟨actor, ?_, tenant, shape⟩, waits⟩
    rw [entry] at old ⊢
    rw [stack] at tenant
    exact among i t actor slot live old tenant
  masked := hosted.masked

/-- The running thread goes on by itself. -/
theorem next_own (hosted : Hosted A m d) {t : Thread Control}
    (slot : d.scheduler.threads[d.scheduler.current]? = some t) (among : A actor t.entry)
    (tenant : Tenant d.generation d.scheduler.current t.stack actor) (kept : m.Undisturbed m')
    (live : m'.ending = none) (shape : Shape d.scheduler.current actor m'.control)
    (parked : d.scheduler.parked = none ∨ m'.control.awaits)
    (masked : m'.control.inKernel → m'.masked) : Hosted A m' d := by
  have owner : m'.host.owner = m.host.owner := by
    rcases kept.owner with same | ⟨unowned, _⟩
    · exact same
    · simp [hosted.owner] at unowned
  refine hosted.next live (kept.dispatcher.trans hosted.dispatcher) owner kept.generation rfl
    (Nat.le_of_eq kept.nextBase.symm) ⟨hosted.coherent, hosted.runs, rfl⟩
    ⟨hosted.shownTid, hosted.shownTotal⟩ parked ?_ masked
  refine hosted.peopled.becomes (fun _ _ _ lives => lives) fun t' slot' _ => ?_
  rw [slot, Option.some.injEq] at slot'
  subst slot'
  exact ⟨actor, among, tenant, shape⟩

/-- Where a stack that is new begins. -/
theorem given_base (hosted : Hosted A m d) {op : Scheduler.Op} {back next : Control} {stack : Stack}
    {freed : Option Stack} {s : Scheduler Control}
    (asked : m.control.asks d.config.stackSize m.mapping = some op)
    (table : Scheduler.Dispatch (primeControl d.generation) (fun c => c.awaits) d.scheduler op back
      (some stack) freed s next) : stack.base = m.host.nextBase ∧ stack.base < stack.top := by
  obtain ⟨program, size, map, rfl, request⟩ := table.given_eq hosted.coherent
  rw [(Control.asks_spawn asked).2] at request
  exact Stack.request_mapUnless request

/-- The scheduler does what is asked of it. -/
theorem next_dispatched (hosted : Hosted A m d) {t : Thread Control}
    (slot : d.scheduler.threads[d.scheduler.current]? = some t) (among : A actor t.entry)
    (tenant : Tenant d.generation d.scheduler.current t.stack actor)
    (shape : Shape d.scheduler.current actor m.control) {op : Scheduler.Op} {back : Control}
    {given freed : Option Stack} {s : Scheduler Control} {timer : Timer} {period : Nat}
    (asked : m.control.asks d.config.stackSize m.mapping = some op)
    (parked : d.scheduler.parked = none)
    (table : Scheduler.Dispatch (primeControl d.generation) (fun c => c.awaits) d.scheduler op back
      given freed s m'.control)
    (served : op ≠ .terminate d.scheduler.current → m.control.Served back) (live : m'.ending = none)
    (host : m'.host =
      { m.host with
        dispatcher := some { d.publish s with timer }
        signal := { m.host.signal with period }
        nextBase := given.elim m.host.nextBase Stack.top
        unmapped := freed.toList ++ m.host.unmapped }) :
    Hosted A m' { d.publish s with timer } := by
  have kernel := Control.asks_inKernel asked
  have mapped : m.host.nextBase ≤ m'.host.nextBase := by
    rw [host]
    cases given with
    | none => exact Nat.le_refl _
    | some stack => exact (hosted.given_base asked table).1 ▸ Nat.le_add_right ..
  refine hosted.next live (by rw [host]) (by rw [host]) (by rw [host]) rfl mapped
    (table.formed hosted.coherent hosted.runs) ⟨rfl, rfl⟩
    (table.parked_or_waits hosted.coherent hosted.runs parked hosted.peopled) ?_ ?_
  · refine table.peopled hosted.coherent hosted.runs hosted.peopled (fun _ _ _ lives => lives) ?_ ?_
    · intro stays t' slot'
      rw [slot, Option.some.injEq] at slot'
      subst slot'
      exact ⟨actor, among, tenant, (served stays).shape shape kernel⟩
    · rintro i program size map stack rfl request spawned
      rw [(Control.asks_spawn asked).2] at request
      have base := (Stack.request_mapUnless request).1
      refine ⟨_, rfl, ⟨.spawned d.generation stack.base, ?_, .spawned stack spawned, ?_⟩, rfl⟩
      · exact hosted.admits.fresh _ _ _ (Nat.le_refl _) (Nat.le_of_eq base.symm)
      · exact .start rfl spawned
  · intro _
    rw [Machine.masked, host]
    exact hosted.masked kernel

/-- The stack of a thread that ended itself is given back. -/
theorem next_reaped (hosted : Hosted A m d) {t : Thread Control}
    (slot : d.scheduler.threads[d.scheduler.current]? = some t) (among : A actor t.entry)
    (tenant : Tenant d.generation d.scheduler.current t.stack actor) {rest : Control}
    (control : m.control = .reap :: rest) (shape : Shape d.scheduler.current actor rest)
    (eq : m' =
      { m with
        host :=
          { m.host with
            dispatcher := some { d with scheduler := { d.scheduler with parked := none } }
            unmapped := d.scheduler.parked.toList ++ m.host.unmapped }
        control := rest }) :
    Hosted A m' { d with scheduler := { d.scheduler with parked := none } } := by
  have masked : m.masked := hosted.masked (by rw [control]; rfl)
  rw [eq]
  refine hosted.next hosted.live rfl rfl rfl rfl (Nat.le_refl _) ⟨?_, hosted.runs, rfl⟩
    ⟨hosted.shownTid, hosted.shownTotal⟩ (.inl rfl) ?_ fun _ => masked
  · have coh := hosted.coherent
    exact ⟨coh.current_lt, coh.ring, coh.queued_lt, coh.nodup, coh.slots⟩
  · refine hosted.peopled.becomes (fun _ _ _ lives => lives) fun t' slot' _ => ?_
    rw [slot, Option.some.injEq] at slot'
    subst slot'
    exact ⟨actor, among, tenant, shape⟩

/-- The main thread is switched to in order to end the process. -/
theorem next_handedOver (hosted : Hosted A m d) {main : Thread Control} {back : Control}
    {s : Scheduler Control} (kernel : m.control.inKernel) (spawned : d.scheduler.current ≠ 0)
    (slot : d.scheduler.threads[0]? = some main) (stored : main.context = some m'.control)
    (current : s.current = 0) (shutdown : s.shutdown = true) (live : m'.ending = none)
    (host : m'.host =
      { m.host with
        dispatcher := some
          { d.publish s with scheduler := s.withContext d.scheduler.current back } }) :
    HandedOver m' { d.publish s with scheduler := s.withContext d.scheduler.current back } := by
  obtain ⟨next, found⟩ := hosted.main_slot spawned slot
  refine ⟨live, by rw [host], current, shutdown, ⟨next, ?_⟩, ?_⟩
  · exact Option.some.inj (stored.symm.trans found)
  · rw [Machine.masked, host]
    exact hosted.masked kernel

/-- A fresh dispatcher, with nobody in its table but its main thread. -/
theorem fresh {capacity : Nat} (one : 1 ≤ capacity) (fits : capacity < 2 ^ 60)
    {table : Scheduler Control} (new : Scheduler.new capacity = .ok table) {own : Option Stack}
    {config : Config} {timer : Timer} {generation : Nat}
    (dispatcher : m.host.dispatcher =
      some ⟨table.withStack 0 own, 0, 1, config, timer, generation⟩)
    (owner : m.host.owner = some homeThread) (live : m.ending = none)
    (older : generation < m.host.generation) (admits : Admits A generation m.host.nextBase)
    (among : A actor none) (tenant : Tenant generation 0 own actor) (calm : Calm actor m.control) :
    Hosted A m ⟨table.withStack 0 own, 0, 1, config, timer, generation⟩ := by
  obtain ⟨start, created, bench, settled, _⟩ := Scheduler.new_scheduler (κ := Control) one fits
  obtain rfl : start = table := Except.ok.inj (created.symm.trans new)
  obtain ⟨current, total, shutdown⟩ := Scheduler.new_fields created
  have runs : (start.withStack 0 own).state? start.current = some .running := by
    rw [Scheduler.state?, Scheduler.withStack_slot, Option.map_map]
    have before := settled.runs
    rw [Scheduler.state?] at before
    cases slot : start.threads[start.current]? with
    | none => simp [slot] at before
    | some t => simpa [slot, apply_ite Thread.state] using before
  exact
    { live
      dispatcher
      owner
      coherent := settled.coherent.withMainStack own
      runs
      shownTid := current.symm
      shownTotal := total.symm
      shutdown
      parked := .inl settled.parked
      generation := older
      admits
      peopled := Scheduler.new_peopled created own ⟨actor, among, tenant, .calm calm⟩
      masked := by simp [calm.outside] }

/-- The running thread starts over. -/
theorem next_installed (owner : m.host.owner = some homeThread)
    (admits : Admits A m.host.generation m.host.nextBase) {config : Config} {guard : Guard}
    {did : Deed} {rest : Control} {own : Option Stack} {gone : List Stack}
    {table : Scheduler Control} {made : Report Control} (user : User actor rest)
    (report : m.host.Installed config own gone table made) (among : A actor none)
    (tenant : Tenant m.host.generation 0 own actor) (live : m'.ending = none)
    (host : m'.host = made.host)
    (control : m'.control = .restore guard :: .note did (.answer .done) :: rest) :
    ∃ timer, Hosted A m' ⟨table.withStack 0 own, 0, 1, config, timer, m.host.generation⟩ := by
  obtain ⟨timer, signal, made_eq, _⟩ := report.host
  rw [made_eq] at host
  refine ⟨timer, fresh (by decide) (by decide) report.new (by rw [host]) (by rw [host]; exact owner)
    live (by rw [host]; exact Nat.lt_succ_self _) (by rw [host]; exact admits) among tenant ?_⟩
  rw [control]
  exact .user (.restore _ (.note _ _ user))

end Hosted

inductive Sequel (A : Actor → Option Nat → Prop) (m : Machine) : Prop where
  | ended (gone : m.ending.isSome)
  | hosted (d : Dispatcher Control) (hosted : Hosted A m d)
  | handedOver (d : Dispatcher Control) (handed : HandedOver m d)
  | leaving (live : m.ending = none) (nobody : m.host.dispatcher = none)
      (leaving : Leaving m.control)

theorem Hosted.sequel (hosted : Hosted A m d) : m.step.Sequel A := by
  obtain ⟨t, actor, slot, among, tenant, shape⟩ := hosted.current_slot
  cases hosted.transition tenant shape with
  | own _ _ kept live shape' waits masked =>
    exact .hosted d (hosted.next_own slot among tenant kept live shape'
      (hosted.parked.imp_right waits) masked)
  | quits _ kept ended => exact .ended ended
  | failed f parked _ eq =>
    have calm : Calm actor m.step.control := eq ▸ calm_unwind (.faulted f) m.control
    exact .hosted d (hosted.next_own slot among tenant (eq ▸ .same rfl rfl) (eq ▸ hosted.live)
      (.calm calm) (.inl parked) (by simp [calm.outside]))
  | dispatched timer period asked parked table served programs live host =>
    exact .hosted _
      (hosted.next_dispatched slot among tenant shape asked parked table served live host)
  | reaped control shape' eq =>
    exact .hosted _ (hosted.next_reaped slot among tenant control shape' eq)
  | installed control user slot' report perm programs live host control' =>
    rw [slot, Option.some.injEq] at slot'
    subst slot'
    obtain ⟨timer, next⟩ := next_installed hosted.owner
      (hosted.admits.mono (Nat.le_of_lt hosted.generation) (Nat.le_refl _)) user report
      (hosted.admits.again _ _ among) (tenant.again hosted.generation) live host control'
    exact .hosted _ next
  | disposed signal _ control slot' programs live host control' =>
    rw [control] at shape
    exact .leaving live (by rw [host]) (control' ▸ Shape.leaving shape)
  | exited _ main programs ending => exact .ended (by rw [ending]; rfl)
  | handedOver kernel spawned at_main stored _ current shutdown _ _ live host =>
    exact .handedOver _
      (hosted.next_handedOver kernel spawned at_main stored current shutdown live host)

theorem Hosted.step (hosted : Hosted A m d) : m.step.Phase A := by
  cases hosted.sequel with
  | ended gone => exact .ended gone
  | hosted d hosted => exact .hosted d hosted
  | handedOver d handed => exact .handedOver d handed
  | leaving live nobody leaving => exact .leaving live nobody leaving

/-- What is true of every control goes on being true while the process is hosted, if it is true of a
fresh thread's and becomes true of the running one's. -/
theorem Hosted.carry (hosted : Hosted A m d) {K : Control → Prop}
    (all : d.scheduler.Peopled (fun _ r => K r.work) (fun c => c.awaits) m.control)
    (fresh : ∀ g b, K [.start g b]) (back : ∀ c, m.control.Served c → K c)
    (failed : ∀ op, m.control.asks d.config.stackSize m.mapping = some op →
      ∀ f, K (unwind (.fault f) m.control))
    (own : m.control.asks d.config.stackSize m.mapping = none → K m.step.control)
    (next : Hosted A' m.step d') :
    d'.scheduler.Peopled (fun _ r => K r.work) (fun c => c.awaits) m.step.control := by
  obtain ⟨t, actor, slot, among, tenant, shape⟩ := hosted.current_slot
  have same : ∀ {e : Dispatcher Control}, m.step.host.dispatcher = some e → d' = e := fun there =>
    Option.some.inj (next.dispatcher.symm.trans there)
  cases hosted.transition tenant shape with
  | own _ idle kept =>
    obtain rfl := same (kept.dispatcher.trans hosted.dispatcher)
    exact all.becomes (fun _ _ _ holds => holds) fun _ _ _ => own idle
  | quits _ _ ended => simp [next.live] at ended
  | failed f parked _ eq asked =>
    obtain ⟨op, asked, _⟩ := asked
    obtain rfl := same (by rw [eq]; exact hosted.dispatcher)
    rw [eq]
    exact all.becomes (fun _ _ _ holds => holds) fun _ _ _ => failed op asked f
  | dispatched timer period asked parked table served programs live host =>
    obtain rfl := same (congrArg Host.dispatcher host)
    refine table.peopled hosted.coherent hosted.runs all (fun _ _ _ holds => holds) ?_ ?_
    · intro stays _ _
      exact back _ (served stays)
    · intro i program size map stack _ _ _
      exact ⟨_, rfl, fresh _ _, rfl⟩
  | reaped control shape' eq =>
    obtain rfl := same (congrArg (fun m' : Machine => m'.host.dispatcher) eq)
    exact all.becomes (fun _ _ _ holds => holds) fun _ _ _ => own (by rw [control]; rfl)
  | installed control user slot' report perm programs live host control' =>
    obtain ⟨timer, signal, made, _⟩ := report.host
    obtain rfl := same ((congrArg Host.dispatcher (host.trans made)))
    refine Scheduler.new_peopled report.new _ ?_
    rw [control']
    exact back _ (by rw [control]; exact .answered ..)
  | disposed _ _ _ _ _ _ host =>
    have there := next.dispatcher
    simp [host] at there
  | exited _ _ _ ending => simp [next.live] at ending
  | handedOver _ _ _ _ _ _ shutdown _ _ _ host =>
    obtain rfl := same (congrArg Host.dispatcher host)
    have on := next.shutdown
    simp [Scheduler.withContext, shutdown] at on

theorem Bare.notOther (bare : m.Bare A) : m.host.owner ≠ some otherThread := by
  rcases bare.home with unowned | mine
  · simp [unowned]
  · simp [mine, homeThread, otherThread]

/-- A bare process stays bare while nobody initialises anything. -/
theorem Bare.next (bare : m.Bare A) (kept : m.Undisturbed m') (live : m'.ending = none)
    (shape : Shape 0 .main m'.control) (awake : m'.control.awaits = false)
    (masked : m'.control.inKernel → m'.masked)
    (owned : ∀ r guard did rest, m'.control = .perform r guard (.program did) :: rest →
      m'.host.owner = some homeThread) : m'.Bare A where
  live := live
  nobody := kept.dispatcher.trans bare.nobody
  home := by
    rcases kept.owner with same | ⟨_, claimed⟩
    · rw [same]
      exact bare.home
    · exact .inr claimed
  among := bare.among
  admits := bare.admits.mono (Nat.le_of_eq kept.generation.symm) (Nat.le_of_eq kept.nextBase.symm)
  shape := shape
  awake := awake
  masked := masked
  owned := owned

inductive BareTransition (m m' : Machine) : Prop where
  | own (kept : m.Undisturbed m') (live : m'.ending = none) (shape : Shape 0 .main m'.control)
      (awake : m'.control.awaits = false) (masked : m'.control.inKernel → m'.masked)
      (owned : ∀ r guard did rest, m'.control = .perform r guard (.program did) :: rest →
        m'.host.owner = some homeThread)
      (how : Calm .main m.control ∨ (m'.host = m.host ∧
        (m.control.Served m'.control ∨ ∃ guard, m.control = .preempt guard :: m'.control)))
  | quits (kept : m.Undisturbed m') (ended : m'.ending.isSome)
  | claimed (foreign : m'.host.owner = some otherThread)
  | left (kept : m.Undisturbed m') (live : m'.ending = none) (leaving : Leaving m'.control)
  | installed {config : Config} {guard : Guard} {did : Deed} {rest : Control}
      {fresh : Scheduler Control} {made : Report Control} (user : User .main rest)
      (report : m.host.Installed config none [] fresh made) (owner : m.host.owner = some homeThread)
      (live : m'.ending = none) (host : m'.host = made.host)
      (control' : m'.control = .restore guard :: .note did (.answer .done) :: rest)
      (control : m.control = .perform (.install config) guard (.program did) :: rest)

theorem BareTransition.back (programs : m'.programs = m.programs) (host : m'.host = m.host)
    (live : m'.ending = none) (calm : Calm .main m'.control)
    (how : m.control.Served m'.control ∨ ∃ guard, m.control = .preempt guard :: m'.control) :
    BareTransition m m' := by
  refine .own (.same programs host) live (.calm calm) calm.awake (by simp [calm.outside]) ?_
    (.inr ⟨host, how⟩)
  intro _ _ _ _ control
  exact absurd calm.outside (by simp [control, Control.inKernel])

/-- Requests of a bare process: all are refused but the one to initialise. -/
theorem Bare.transition_perform (bare : m.Bare A) {r : Request} {guard : Guard} {did : Deed}
    {rest : Control} (control : m.control = .perform r guard (.program did) :: rest)
    (user : User .main rest) : BareTransition m m.step := by
  rw [step_of_masked bare.live (bare.masked (by rw [control]; rfl)) control]
  by_cases starts : ∃ config, r = .install config
  · obtain ⟨config, rfl⟩ := starts
    obtain ⟨table, made, installed, report⟩ := Host.install_first bare.nobody config
    have performed : m.host.perform m.objections primeControl (.install config) = .ok made :=
      installed
    simp only [work, perform, performed, proceed, report.outcome]
    exact .installed user report (bare.owned _ _ _ _ control) bare.live rfl rfl control
  · have refused : m.host.perform m.objections primeControl r =
        .ok ⟨.returns (.refused .uninitialized), [], m.host⟩ := by
      cases r with
      | install config => exact absurd ⟨config, rfl⟩ starts
      | _ => simp [Host.perform, bare.nobody]
    simp only [work, perform, refused, proceed]
    exact .back rfl rfl bare.live (.user (.restore _ (.note _ _ user)))
      (.inl (by rw [control]; exact .answered ..))

theorem Bare.transition (bare : m.Bare A) : BareTransition m m.step := by
  have shape := bare.shape
  generalize control : m.control = c at shape
  cases shape with
  | calm calm =>
    rw [← control] at calm
    have alone : m.Solo 0 .main m.step := solo calm bare.live bare.notOther (by simp)
    cases alone with
    | on kept live shape awake masked owned =>
      exact .own kept live shape awake masked owned (.inl calm)
    | quits kept ended => exact .quits kept ended
    | claimed _ foreign => exact .claimed foreign
  | perform r guard did user => exact bare.transition_perform control user
  | returning _ spawned => exact absurd rfl spawned
  | adopted _ _ spawned => exact absurd rfl spawned
  | preempt guard calm =>
    rw [step_of_masked bare.live (bare.masked (by rw [control]; rfl)) control]
    simp only [work, preempt, bare.nobody]
    exact .back rfl rfl bare.live calm (.inr ⟨guard, control⟩)
  | reap | start | arrive => exact absurd bare.awake (by simp [control, Control.awaits])
  | fetch _ own => simp at own
  | dispose guard rest =>
    rw [step_of_masked bare.live (bare.masked (by rw [control]; rfl)) control]
    simp only [work, dispose, bare.nobody]
    exact .left (.same rfl rfl) bare.live (.restore _ (.closed _))
  | leave guard main =>
    rw [step_of_masked bare.live (bare.masked (by rw [control]; rfl)) control]
    simp only [work, dispose, bare.nobody]
    exact .left (.same rfl rfl) bare.live (.restore _ .quit)

theorem Bare.step (bare : m.Bare A) : m.step.Phase A := by
  cases bare.transition with
  | own kept live shape awake masked owned =>
    exact .bare (bare.next kept live shape awake masked owned)
  | quits kept ended => exact .ended ended
  | claimed foreign => exact .foreign foreign
  | left kept live leaving => exact .leaving live (kept.dispatcher.trans bare.nobody) leaving
  | installed user report owner live host control' =>
    obtain ⟨timer, next⟩ :=
      Hosted.next_installed owner bare.admits user report bare.among .main live host control'
    exact .hosted _ next

/-- A main thread that the process was handed over to ends it as soon as it is back. -/
theorem HandedOver.step (handed : HandedOver m d) :
    m.step.ending = some .exited ∧ m.step.host = (m.host.reap d).2 := by
  have ends : (m.host.reap d).1 = true := by
    simp [Host.reap, Scheduler.takeParked, handed.shutdown, handed.current]
  obtain ⟨rest, control⟩ := handed.reaps
  rw [step_of_masked handed.live handed.masked control]
  simp only [work, reap, handed.dispatcher, ends, if_true]
  exact ⟨rfl, rfl⟩

/-- It gives back the stack that is parked, if there is one, and then everything else. -/
theorem HandedOver.step_host (handed : HandedOver m d) :
    m.step.host = (((m.host.put { d with scheduler := { d.scheduler with parked := none } }).unmap
      d.scheduler.parked.toList).teardown
        { d with scheduler := { d.scheduler with parked := none } }).2 := by
  rw [handed.step.2]
  simp [Host.reap, Scheduler.takeParked, handed.shutdown, handed.current]

/-- Without a dispatcher nothing is left to be done but to end. -/
theorem Leaving.step (leaving : Leaving m.control) (live : m.ending = none)
    (nobody : m.host.dispatcher = none) :
    m.Undisturbed m.step ∧
      (m.step.ending.isSome ∨ (m.step.ending = none ∧ Leaving m.step.control)) := by
  cases waits : m.host.signal.isDeliverable with
  | true =>
    have delivers : m.step = m.deliver := by simp [Machine.step, live, waits]
    rw [delivers, deliver]
    obtain ⟨delivery, taken⟩ := m.host.signal.deliver_eq
    rw [taken]
    cases delivery with
    | killed => exact ⟨.same rfl rfl, .inl rfl⟩
    | dropped => exact ⟨.stirred rfl rfl, .inr ⟨live, leaving⟩⟩
    | invoked callback =>
      exact ⟨.stirred rfl rfl, .inr ⟨live, .preempt _ (.restore _ leaving)⟩⟩
  | false =>
    generalize control : m.control = c at leaving
    cases leaving with
    | restore guard leaving =>
      rw [step_of_frame live waits control]
      exact ⟨.stirred rfl rfl, .inr ⟨live, leaving⟩⟩
    | preempt guard leaving =>
      rw [step_of_frame live waits control]
      simp only [work, Machine.preempt, nobody]
      exact ⟨.same rfl rfl, .inr ⟨live, leaving⟩⟩
    | closed | quit =>
      rw [step_of_frame live waits control]
      exact ⟨.same rfl rfl, .inl rfl⟩

/-- All threads of a process stay among `A`. -/
theorem Phase.step (phase : m.Phase A) : m.step.Phase A := by
  cases phase with
  | ended gone =>
    obtain ⟨e, ended⟩ := Option.isSome_iff_exists.mp gone
    rw [step_of_ended ended]
    exact .ended gone
  | foreign owner => exact .foreign (step_owner owner)
  | bare bare => exact bare.step
  | hosted d hosted => exact hosted.step
  | handedOver d handed => exact .ended (by rw [handed.step.1]; rfl)
  | leaving live nobody leaving =>
    obtain ⟨kept, gone | ⟨live, leaving⟩⟩ := leaving.step live nobody
    · exact .ended gone
    · exact .leaving live (kept.dispatcher.trans nobody) leaving

theorem Phase.run (phase : m.Phase A) (n : Nat) : (run n m).Phase A := by
  induction n generalizing m with
  | zero => exact phase
  | succ n ih =>
    rw [run_succ]
    exact ih phase.step

/-- A run keeps what every step keeps, as long as no other OS thread makes itself the owner. -/
theorem Phase.keeps {I : Machine → Prop} (phase : m.Phase A) (holds : I m)
    (keeps : ∀ m : Machine, m.Phase A → I m → m.step.host.owner = some otherThread ∨ I m.step)
    (n : Nat) (home : (Machine.run n m).host.owner ≠ some otherThread) : I (Machine.run n m) := by
  induction n generalizing m with
  | zero => exact holds
  | succ n ih =>
    rw [run_succ] at home ⊢
    rcases keeps m phase holds with foreign | next
    · exact absurd (run_owner foreign n) home
    · exact ih phase.step next home

/-- A process begins bare. -/
theorem process_bare (main : List Instr) (programs : List (List Instr)) (system : System)
    (among : A .main none) (admits : Admits A 0 Host.firstBase) :
    (process main programs system).Bare A where
  live := rfl
  nobody := rfl
  home := .inl rfl
  among := among
  admits := admits
  shape := .calm (.user (.run main (.quit rfl)))
  awake := rfl
  masked := nofun
  owned := nofun

def firstDispatcher (fresh : Scheduler Control) (config : Config) : Dispatcher Control :=
  ⟨fresh.withStack 0 none, 0, 1, config, .manual (ManualTimer.new.arm config.quantum ()), 0⟩

def opened (fresh : Scheduler Control) (config : Config) (event : Event) (main : List Instr)
    (programs : List (List Instr)) (system : System) : Machine :=
  { programs
    system
    host :=
      { (Host.fresh : Host Control) with
        owner := some homeThread
        dispatcher := some (firstDispatcher fresh config)
        generation := 1 }
    control := [.run main, .close]
    trace := [.event event]
    ending := none }

theorem standalone_eq {capacity micros : Nat} {stackSize : Option Nat} {main : List Instr}
    {programs : List (List Instr)} {system : System} (one : 1 ≤ capacity)
    (fits : capacity < 2 ^ 60)
    (started : standalone capacity micros stackSize none main programs system = .ok (.ok m)) :
    ∃ config fresh event, Host.settings micros stackSize = .ok (.ok config) ∧
      Scheduler.new capacity = .ok fresh ∧ m = opened fresh config event main programs system := by
  unfold standalone at started
  obtain ⟨answer, made, started⟩ := bind_eq_ok.mp started
  cases answer with
  | error e => simp at started
  | ok config =>
    obtain ⟨fresh, event, timer, signal, new, launched, _, armed⟩ :=
      Host.launch_eq (κ := Control) { Host.fresh with owner := some homeThread } capacity one fits
        config (.manual .new) none
    refine ⟨config, fresh, event, made, new, ?_⟩
    simp only [launched, ok_bind, pure_eq_ok, Except.ok.injEq] at started
    cases armed with
    | manual => exact started.symm

theorem opened_hosted {capacity : Nat} (one : 1 ≤ capacity) (fits : capacity < 2 ^ 60)
    {fresh : Scheduler Control} (new : Scheduler.new capacity = .ok fresh) (config : Config)
    (event : Event) (main : List Instr) (programs : List (List Instr)) (system : System)
    (among : A .main none) (admits : Admits A 0 Host.firstBase) :
    Hosted A (opened fresh config event main programs system) (firstDispatcher fresh config) :=
  .fresh one fits new rfl rfl rfl (Nat.lt_succ_self 0) admits among .main
    (.user (.run main (.close rfl)))

/-- How a process may begin: bare, or with a dispatcher and a manual timer of its own, under any
system. -/
inductive Begins : Machine → Prop where
  | bare (main : List Instr) (programs : List (List Instr)) (system : System) :
      Begins (process main programs system)
  | hosted {capacity micros : Nat} {stackSize : Option Nat} {main : List Instr}
      {programs : List (List Instr)} {system : System} {m : Machine} (one : 1 ≤ capacity)
      (fits : capacity < 2 ^ 60)
      (started : standalone capacity micros stackSize none main programs system = .ok (.ok m)) :
      Begins m

/-- Those spawned later are always among all threads. -/
theorem admits_all (generation nextBase : Nat) :
    Admits (fun _ _ => True) generation nextBase where
  fresh := fun _ _ _ _ _ => trivial
  again := fun _ _ _ => trivial

theorem Begins.phase (begins : Begins m) : m.Phase fun _ _ => True := by
  cases begins with
  | bare main programs system =>
    exact .bare (process_bare main programs system trivial (admits_all ..))
  | hosted one fits started =>
    obtain ⟨config, fresh, event, _, new, rfl⟩ := standalone_eq one fits started
    exact .hosted _ (opened_hosted one fits new _ _ _ _ _ trivial (admits_all ..))

end RoundRobin.Machine
