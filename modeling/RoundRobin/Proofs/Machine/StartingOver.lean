import RoundRobin.Proofs.Machine.Acts

/-!
# Starting over

A thread that initialises again becomes the main thread of a fresh dispatcher and goes on with its
own program. It takes the stack that it runs on along, if that is one of the library's. All other
threads are gone for good, and their stacks are given back, each once. When the program of a thread
that was spawned once is over, the process ends as if its main thread had been ended.
-/

namespace RoundRobin

def Host.callerStack {κ : Type} (h : Host κ) : Option Stack :=
  h.dispatcher.bind fun d => d.scheduler.threads[d.scheduler.current]?.bind Thread.stack

/-- A positive quantum can be set, with any stack size that fits into words when it is rounded. -/
theorem Host.settings_made {micros : Nat} (positive : 0 < micros) {stackSize : Option Nat}
    (fits : ∀ bytes, stackSize = some bytes → bytes + pageSize ≤ wordMax + 1) :
    ∃ config, Host.settings micros stackSize = .ok (.ok config) ∧
      config.quantum.micros = micros := by
  have made : Config.ofMicros micros = .ok ⟨⟨micros, positive⟩, defaultStackSize⟩ := by
    simp [Config.ofMicros, Quantum.ofMicros, positive, Except.map]
  cases stackSize with
  | none => exact ⟨⟨⟨micros, positive⟩, defaultStackSize⟩, by simp only [Host.settings, made], rfl⟩
  | some bytes =>
    have small := fits bytes rfl
    simp only [pageSize, wordMax] at small
    have rounded : roundToPages (max bytes minStackSize) pageSize =
        .ok (max ((max bytes 16384 + 4095) / 4096) 1 * 4096) := by
      have whole : max ((max bytes 16384 + 4095) / 4096) 1 * 4096 ≤ wordMax := by
        simp only [wordMax]
        omega
      exact if_pos whole
    simp only [Host.settings, made, Config.withStackSize, rounded, ok_bind, pure_eq_ok]
    exact ⟨_, rfl, rfl⟩

/-- Starting over keeps the caller's stack and gives back all the others, if there are any. -/
theorem Host.install_cases {κ : Type} {h : Host κ} (config : Config)
    (formed : ∀ d, h.dispatcher = some d → d.scheduler.Formed) :
    ∃ fresh gone made, h.install config = .ok made ∧
      h.Installed config h.callerStack gone fresh made ∧
      (h.callerStack.toList ++ gone).Perm (h.dispatcher.elim [] fun d => d.scheduler.owned) := by
  cases dispatcher : h.dispatcher with
  | none =>
    obtain ⟨fresh, made, installed, report⟩ := install_first dispatcher config
    have own : h.callerStack = none := by simp [callerStack, dispatcher]
    exact ⟨fresh, [], made, installed, own ▸ report, by simp [own]⟩
  | some d =>
    obtain ⟨t, slot⟩ := Scheduler.Coherent.slot_of_lt (formed d dispatcher).current_lt
    obtain ⟨fresh, gone, made, installed, report, perm⟩ :=
      install_again dispatcher (formed d dispatcher) slot config
    have own : h.callerStack = t.stack := by simp [callerStack, dispatcher, slot]
    exact ⟨fresh, gone, made, installed, own ▸ report, own ▸ perm⟩

/-- A fresh table as others see it. -/
theorem Scheduler.fresh_readings {κ : Type} {capacity : Nat} (one : 1 ≤ capacity)
    (fits : capacity < 2 ^ 60) {fresh : Scheduler κ} (new : Scheduler.new capacity = .ok fresh)
    (own : Option Stack) :
    (fresh.withStack 0 own).quantaOf 0 = .ok 1 ∧
      ∀ tid, 1 ≤ tid → (fresh.withStack 0 own).stateOf tid = .error (.invalidTid tid) := by
  obtain ⟨start, created, bench, _, size, _⟩ := Scheduler.new_scheduler (κ := κ) one fits
  obtain rfl : start = fresh := Except.ok.inj (created.symm.trans new)
  constructor
  · obtain ⟨main, slot⟩ := Coherent.slot_of_lt (s := start) (i := 0) (size ▸ one)
    have first := new_slots bench slot
    have there : (start.withStack 0 own).threads[0]? = some { main with stack := own } := by
      rw [withStack_slot, slot]
      rfl
    simp only [quantaOf, thread, there, true_or, if_true]
    rw [first]
    rfl
  · intro tid spawned
    have other : tid ≠ 0 := Nat.ne_of_gt spawned
    cases slot : start.threads[tid]? with
    | none => simp [stateOf, thread, withStack_slot, slot, Except.map]
    | some t =>
      have blank := new_slots bench slot
      rw [if_neg other] at blank
      subst blank
      simp [stateOf, thread, withStack_slot, slot, Ne.symm other, other, Thread.isUnused,
        Thread.unused, Except.map]

/-- Who may act after `caller` has started over: itself, and those spawned since. -/
def Remains (caller : Actor) (generation nextBase : Nat) (actor : Actor) : Prop :=
  actor = caller ∨ ∃ g b, actor = .spawned g b ∧ generation ≤ g ∧ nextBase ≤ b

namespace Machine

variable {A : Actor → Option Nat → Prop} {m m' : Machine} {d : Dispatcher Control}

/-- The thread that runs a program, and the stack it would take along into a fresh dispatcher. -/
theorem Phase.caller (phase : m.Phase A) (home : m.host.owner ≠ some otherThread) {a : Act}
    (acts : m.act = some a) :
    Calm m.control.actor m.control ∧
      Tenant m.host.generation 0 m.host.callerStack m.control.actor ∧
      (m.host.owner = none ∨ m.host.owner = some homeThread) ∧
      ∀ d, m.host.dispatcher = some d → d.scheduler.Formed := by
  rcases phase.acting home acts with bare | ⟨d, hosted⟩
  · have own : m.host.callerStack = none := by simp [Host.callerStack, bare.nobody]
    rw [Shape.actor_of_act bare.shape acts, own]
    exact ⟨Shape.calm_of_act bare.shape acts, .main, bare.home, by simp [bare.nobody]⟩
  · obtain ⟨t, actor, slot, _, tenant, shape⟩ := hosted.current_slot
    have own : m.host.callerStack = t.stack := by simp [Host.callerStack, hosted.dispatcher, slot]
    rw [Shape.actor_of_act shape acts, own]
    refine ⟨Shape.calm_of_act shape acts, tenant.again hosted.generation, .inr hosted.owner, ?_⟩
    intro d' dispatcher
    rw [hosted.dispatcher, Option.some.injEq] at dispatcher
    exact dispatcher ▸ hosted.coherent.formed

/-- The first half of an initialisation: the critical section is entered. -/
theorem step_init (live : m.ending = none)
    (home : m.host.owner = none ∨ m.host.owner = some homeThread)
    (still : m.host.signal.isDeliverable = false) {micros : Nat} {stackSize : Option Nat}
    {is : List Instr} {rest : Control}
    (control : m.control = .run (.call (.init micros stackSize) :: is) :: rest) {config : Config}
    (settings : Host.settings micros stackSize = .ok (.ok config)) :
    m.step =
      { m with
        host :=
          { m.host with owner := some homeThread, signal := m.host.signal.enter.2 }
        control := .perform (.install config) ⟨m.masked⟩
          (.program (Call.init micros stackSize : Call Target).deed) :: .run is :: rest } := by
  have admitted : m.host.examine homeThread (.init micros stackSize) =
      .ok (.request (.install config), { m.host with owner := some homeThread }) := by
    rcases home with unowned | mine
    · simp [Host.examine, settings, unowned]
    · have whole : ({ m.host with owner := some homeThread } : Host Control) = m.host := by
        rw [← mine]
      simp [Host.examine, settings, mine, whole]
  rw [step_of_frame live still control]
  simp only [work, execute, Machine.call, Call.map, admitted, proceed]
  rfl

/-- Both halves of an initialisation. -/
theorem Phase.starts_over (phase : m.Phase A) (live : m.ending = none)
    (home : m.host.owner ≠ some otherThread) (still : m.host.signal.isDeliverable = false)
    {micros : Nat} {stackSize : Option Nat} {is : List Instr} {rest : Control}
    (control : m.control = .run (.call (.init micros stackSize) :: is) :: rest) {config : Config}
    (settings : Host.settings micros stackSize = .ok (.ok config)) :
    ∃ fresh gone timer signal, Scheduler.new maxThreads = .ok fresh ∧
      (m.host.callerStack.toList ++ gone).Perm
        (m.host.dispatcher.elim [] fun d => d.scheduler.owned) ∧
      m.step.step.ending = none ∧
      m.step.step.control = .restore ⟨m.masked⟩ ::
        .note (Call.init micros stackSize : Call Target).deed (.answer .done) :: .run is :: rest ∧
      m.step.step.host =
        { m.host with
          owner := some homeThread
          dispatcher :=
            some ⟨fresh.withStack 0 m.host.callerStack, 0, 1, config, timer, m.host.generation⟩
          signal
          generation := m.host.generation + 1
          unmapped := gone ++ m.host.unmapped } := by
  have acts : m.act = some (.instr (.call (.init micros stackSize))) := by
    simp [act, live, still, control]
  obtain ⟨_, _, owner, formed⟩ := phase.caller home acts
  have entered := step_init live owner still control settings
  let host : Host Control :=
    { m.host with owner := some homeThread, signal := m.host.signal.enter.2 }
  have host_eq : m.step.host = host := by rw [entered]
  have waits : m.step.control = .perform (.install config) ⟨m.masked⟩
      (.program (Call.init micros stackSize : Call Target).deed) :: .run is :: rest := by
    rw [entered]
  have goesOn : m.step.ending = none := by
    rw [entered]
    exact live
  have quiet : m.step.host.signal.isDeliverable = false := by
    rw [host_eq]
    exact Bool.and_false _
  obtain ⟨fresh, gone, made, installed, report, perm⟩ := host.install_cases config formed
  obtain ⟨timer, signal, made_eq, _⟩ := report.host
  have performed : m.step.host.perform m.step.objections primeControl (.install config) =
      .ok made := by
    rw [host_eq]
    exact installed
  refine ⟨fresh, gone, timer, signal, report.new, perm, ?_⟩
  rw [step_of_frame goesOn quiet waits]
  simp only [work, perform, performed, proceed, report.outcome]
  exact ⟨goesOn, rfl, made_eq⟩

theorem remains_admits (caller : Actor) (generation nextBase : Nat) :
    Admits (fun actor _ => Remains caller generation nextBase actor) generation nextBase where
  fresh := fun g b _ later higher => .inr ⟨g, b, rfl, later, higher⟩
  again := fun _ _ remains => remains

/-- Every dispatcher since is at least as young as the one that `caller` started. -/
theorem Hosted.generation_le {caller : Actor} {generation nextBase : Nat}
    (hosted : Hosted (fun actor _ => Remains caller generation nextBase actor) m d) :
    generation ≤ d.generation := by
  -- Somebody spawned now, on a stack far above, would be admitted.
  obtain ⟨base, above, other⟩ : ∃ base, m.host.nextBase ≤ base ∧
      Actor.spawned d.generation base ≠ caller := by
    cases caller with
    | main => exact ⟨m.host.nextBase, Nat.le_refl _, by simp⟩
    | spawned g b => exact ⟨m.host.nextBase + b + 1, by omega, by simp; omega⟩
  rcases hosted.admits.fresh d.generation base none (Nat.le_refl _) above with
    same | ⟨g, b, same, later, _⟩
  · exact absurd same other
  · obtain ⟨rfl, _⟩ := Actor.spawned.inj same
    exact later

/-- The end of the main thread, whoever asks for it. -/
theorem step_exit {guard : Guard} {caller : Caller} {rest : Control} (live : m.ending = none)
    (dispatcher : m.host.dispatcher = some d) (main : d.scheduler.current = 0) (masked : m.masked)
    (control : m.control = .perform (.terminate 0) guard caller :: rest) :
    m.step =
      { m with
        host := (m.host.teardown { d with scheduler := { d.scheduler with shutdown := true } }).2
        trace := .event (.exiting
          (m.host.teardown { d with scheduler := { d.scheduler with shutdown := true } }).1) ::
            m.trace
        ending := some .exited } := by
  have still : m.host.signal.isDeliverable = false := by
    have masked : m.host.signal.masked = true := masked
    simp [Signal.isDeliverable, masked]
  rw [step_of_frame live still control]
  simp [work, perform, Host.perform, dispatcher, Host.terminate, Scheduler.terminate, main, proceed,
    follow, log, record, finish]

/-- A spawned thread that has become the main thread ends the process with its program. -/
theorem finish_adopted {generation base : Nat} (live : m.ending = none)
    (still : m.host.signal.isDeliverable = false) (owner : m.host.owner = some homeThread)
    (dispatcher : m.host.dispatcher = some d) (older : generation ≠ d.generation)
    (main : d.scheduler.current = 0) (control : m.control = [.finish generation base]) :
    let ending : Machine := { m with control := [.run [.call (.terminate (.tid 0))]] }
    m.step.step.ending = some .exited ∧ m.step.step.host = ending.step.step.host ∧
      m.step.step.trace = ending.step.step.trace := by
  intro ending
  let host : Host Control := { m.host with signal := m.host.signal.enter.2 }
  have finishes : m.step =
      { m with host, control := [.perform (.terminate 0) ⟨m.masked⟩ .adopted] } := by
    rw [step_of_frame live still control]
    simp only [work, finishThread, dispatcher, if_neg older]
    rfl
  have calls : ending.step =
      { m with
        host
        control := [.perform (.terminate 0) ⟨m.masked⟩ (.program .terminated), .run []] } := by
    rw [step_of_frame (m := ending) live still rfl]
    have admitted : ending.host.examine homeThread (.terminate 0) =
        .ok (.request (.terminate 0), m.host) := by
      simp [Host.examine, Host.letThrough, Host.refusal, ending, owner, dispatcher]
    simp only [work, execute, Machine.call, Call.map, resolve, admitted, proceed]
    rfl
  have exits := step_exit (m := m.step) (d := d) (by rw [finishes]; exact live)
    (by rw [finishes]; exact dispatcher) main (by rw [finishes]; rfl) (by rw [finishes])
  have exits' := step_exit (m := ending.step) (d := d) (by rw [calls]; exact live)
    (by rw [calls]; exact dispatcher) main (by rw [calls]; rfl) (by rw [calls])
  rw [exits, exits', finishes, calls]
  exact ⟨rfl, rfl, rfl⟩

/-- What holds of every later state of a process after `caller` has started over on the stack `own`:
`generation` is that of the new dispatcher, `nextBase` the name of the next mapping and `released`
the stacks given back by then. -/
structure Aftermath (caller : Actor) (generation nextBase : Nat) (own : Option Stack)
    (released : List Stack) (later : Machine) : Prop where
  /-- No other thread of an earlier dispatcher acts again. -/
  acts : ∀ a, later.act = some a →
    later.control.actor = caller ∨ ∃ g b, later.control.actor = .spawned g b ∧ generation ≤ g
  released : released <:+ later.host.unmapped
  once : (later.host.unmapped.map Stack.base).Nodup
  /-- Of the stacks that were there before, the caller's alone can be alive. -/
  alive : ∀ d, later.host.dispatcher = some d → ∀ stack ∈ d.scheduler.owned,
    stack.base < nextBase → own = some stack
  /-- Nobody runs on a stack that was given back. -/
  standing : ∀ a g b, later.act = some a → later.control.actor = .spawned g b →
    b ∉ later.host.unmapped.map Stack.base
  /-- The end of the caller's program is the end of the process, as if the main thread were
  ended. -/
  returns : ∀ g b, later.act = some .ending → later.control = [.finish g b] →
    caller = .spawned g b →
    let ending : Machine := { later with control := [.run [.call (.terminate (.tid 0))]] }
    later.step.step.ending = some .exited ∧ later.step.step.host = ending.step.step.host ∧
      later.step.step.trace = ending.step.step.trace

/-- Nobody runs on a stack that was given back. -/
theorem Phase.standing {a : Act} {g b : Nat} (phase : m.Phase A) (tidy : m.host.Tidy)
    (home : m.host.owner ≠ some otherThread) (acts : m.act = some a)
    (actor : m.control.actor = .spawned g b) : b ∉ m.host.unmapped.map Stack.base := by
  rcases phase.acting home acts with bare | ⟨d, hosted⟩
  · have main := Shape.actor_of_act bare.shape acts
    rw [actor] at main
    cases main
  · obtain ⟨t, slot, _, tenant⟩ := hosted.acts acts
    rw [actor] at tenant
    intro released
    obtain ⟨other, gone, base⟩ := List.mem_map.mp released
    rcases tenant.stack_cases with ⟨_, main, _⟩ | ⟨stack, _, own, same, _⟩
    · cases main
    · have apart := tidy.away hosted.dispatcher slot own (.inr gone)
      exact apart ((Actor.spawned.inj same).2.symm.trans base.symm)

/-- What a thread leaves behind that has started over. -/
theorem Hosted.aftermath {caller : Actor} {own : Option Stack} {generation : Nat}
    (hosted : Hosted (fun actor _ => Remains caller generation m.host.nextBase actor) m d)
    (tidy : m.host.Tidy) (older : ∀ g b, caller = .spawned g b → g < generation)
    (stock : m.host.stock = own.toList ++ m.host.unmapped) (k : Nat) :
    Aftermath caller generation m.host.nextBase own m.host.unmapped (run k m) := by
  have phase := Phase.run (.hosted d hosted) k
  have owner : (run k m).host.owner = some homeThread := run_owner hosted.owner k
  have home : (run k m).host.owner ≠ some otherThread := by simp [owner, homeThread, otherThread]
  obtain ⟨kept, tidy'⟩ := Phase.tidy (.hosted d hosted) tidy k home
  have apart := tidy'.nodup
  rw [Host.stock, List.map_append, List.nodup_append] at apart
  constructor
  · intro a acts
    obtain ⟨_, same | ⟨g, b, spawned, later, _⟩⟩ := phase.acts home acts
    · exact .inl same
    · exact .inr ⟨g, b, spawned, later⟩
  · exact kept.released
  · exact apart.2.1
  · intro d' dispatcher stack mem low
    have mem' : stack ∈ (run k m).host.stock := by
      rw [Host.stock, dispatcher]
      exact List.mem_append_left _ mem
    rcases kept.account stack mem' with old | new
    · rw [stock] at old
      rcases List.mem_append.mp old with mine | gone
      · exact Option.mem_toList.mp mine
      · -- What had been given back by then still is, so it is not in the table.
        rw [dispatcher] at apart
        exact absurd rfl (apart.2.2 _ (List.mem_map_of_mem mem) _
          (List.mem_map_of_mem (kept.released.subset gone)))
    · omega
  · intro a g b acts actor
    exact phase.standing tidy' home acts actor
  · intro g b acts control same
    obtain ⟨live, still, _⟩ := act_cases acts
    rcases phase.acting home acts with bare | ⟨d', hosted'⟩
    · have main := Shape.actor_of_act bare.shape acts
      rw [control] at main
      cases main
    · obtain ⟨t, _, _, tenant⟩ := hosted'.acts acts
      have actor : (run k m).control.actor = .spawned g b := by
        rw [control]
        rfl
      rw [actor] at tenant
      have since := hosted'.generation_le
      have before := older g b same
      rcases tenant.place with ⟨equal, _⟩ | ⟨less, main⟩
      · omega
      · exact finish_adopted live still owner hosted'.dispatcher (Nat.ne_of_lt less) main control

theorem Calm.user_of_run {actor : Actor} {program : List Instr} {rest : Control}
    (calm : Calm actor (.run program :: rest)) : User actor rest := by
  cases calm with
  | user user =>
    cases user with
    | run _ user => exact user

/-- The dispatcher that an initialisation makes has nobody in its table but the caller. -/
theorem Phase.hosted_anew (phase : m.Phase A) (live : m.ending = none)
    (home : m.host.owner ≠ some otherThread) (still : m.host.signal.isDeliverable = false)
    {micros : Nat} {stackSize : Option Nat} {is : List Instr} {rest : Control}
    (control : m.control = .run (.call (.init micros stackSize) :: is) :: rest)
    {config : Config} {fresh : Scheduler Control} {timer : Timer}
    (new : Scheduler.new maxThreads = .ok fresh) (live' : m'.ending = none)
    (control' : m'.control = .restore ⟨m.masked⟩ ::
      .note (Call.init micros stackSize : Call Target).deed (.answer .done) :: .run is :: rest)
    (owner : m'.host.owner = some homeThread) (younger : m.host.generation < m'.host.generation)
    (dispatcher : m'.host.dispatcher =
      some ⟨fresh.withStack 0 m.host.callerStack, 0, 1, config, timer, m.host.generation⟩) :
    Hosted (fun actor _ => Remains m.control.actor m.host.generation m'.host.nextBase actor) m'
      ⟨fresh.withStack 0 m.host.callerStack, 0, 1, config, timer, m.host.generation⟩ := by
  have acts : m.act = some (.instr (.call (.init micros stackSize))) := by
    simp [act, live, still, control]
  obtain ⟨calm, tenant, _⟩ := phase.caller home acts
  refine .fresh (by decide) (by decide) new dispatcher owner live' younger (remains_admits ..)
    (.inl rfl) tenant ?_
  rw [control']
  generalize m.control.actor = caller at calm
  rw [control] at calm
  exact .user (.restore _ (.note _ _ (.run _ (Calm.user_of_run calm))))

/-- Whoever initialises again goes on as the main thread of a fresh dispatcher, on its own stack.
Every other stack is given back, each once, and of all the threads that there were it alone acts
again; if it was spawned once, the end of its program ends the process. -/
theorem only_caller_survives_reinit (main : List Instr) (programs : List (List Instr))
    (system : System) (n : Nat) {m : Machine} (reached : run n (process main programs system) = m)
    (live : m.ending = none) (home : m.host.owner ≠ some otherThread)
    (still : m.host.signal.isDeliverable = false)
    {micros : Nat} {stackSize : Option Nat} {is : List Instr} {rest : Control}
    (control : m.control = .run (.call (.init micros stackSize) :: is) :: rest)
    (positive : 0 < micros)
    (fits : ∀ bytes, stackSize = some bytes → bytes + pageSize ≤ wordMax + 1) :
    ∃ m' config fresh timer own, m.step.step = m' ∧ m.host.callerStack = own ∧
      Host.settings micros stackSize = .ok (.ok config) ∧ config.quantum.micros = micros ∧
      m'.ending = none ∧
      m'.control = .restore ⟨m.masked⟩ ::
        .note (Call.init micros stackSize : Call Target).deed (.answer .done) :: .run is :: rest ∧
      Scheduler.new maxThreads = .ok fresh ∧
      m'.host.dispatcher =
        some ⟨fresh.withStack 0 own, 0, 1, config, timer, m.host.generation⟩ ∧
      m'.host.currentTid homeThread = 0 ∧ m'.host.totalQuanta homeThread = 1 ∧
      (fresh.withStack 0 own).quantaOf 0 = .ok 1 ∧
      (∀ tid, 1 ≤ tid → (fresh.withStack 0 own).stateOf tid = .error (.invalidTid tid)) ∧
      (own = none ↔ m.control.actor = .main) ∧
      (∀ stack, own = some stack → ∃ g, m.control.actor = .spawned g stack.base) ∧
      (own.toList ++ m'.host.unmapped).Perm m.host.stock ∧
      ((own.toList ++ m'.host.unmapped).map Stack.base).Nodup ∧
      ∀ k, Aftermath m.control.actor m.host.generation m.host.nextBase own m'.host.unmapped
        (run k m') := by
  obtain ⟨config, settings, quantum⟩ := Host.settings_made positive fits
  have begins : (process main programs system).Phase fun _ _ => True :=
    .bare (process_bare main programs system trivial (admits_all ..))
  have phase : m.Phase fun _ _ => True := reached ▸ begins.run n
  have tidy : m.host.Tidy :=
    reached ▸ (begins.tidy (process_tidy main programs system) n (reached ▸ home)).2
  have acts : m.act = some (.instr (.call (.init micros stackSize))) := by
    simp [act, live, still, control]
  obtain ⟨_, tenant, _⟩ := phase.caller home acts
  obtain ⟨fresh, gone, timer, signal, new, perm, live', control', host⟩ :=
    phase.starts_over live home still control settings
  have again : run 2 m = m.step.step := by rw [run_succ, run_succ]; rfl
  generalize made : m.step.step = m' at live' control' host again
  have dispatcher : m'.host.dispatcher =
      some ⟨fresh.withStack 0 m.host.callerStack, 0, 1, config, timer, m.host.generation⟩ := by
    rw [host]
  have owner : m'.host.owner = some homeThread := by rw [host]
  have visible : m'.host.visible homeThread = m'.host.dispatcher := by
    simp [Host.visible, Host.refusal, owner, dispatcher]
  have stock : m'.host.stock = m.host.callerStack.toList ++ m'.host.unmapped := by
    rw [Host.stock, dispatcher]
    exact congrArg (· ++ _) (Host.fresh_owned (by decide) (by decide) new _)
  have tidy' : m'.host.Tidy := again ▸
    (phase.tidy tidy 2 (by simp [again, owner, homeThread, otherThread])).2
  have hosted := phase.hosted_anew live home still control new live' control' owner
    (by simp [host]) dispatcher
  obtain ⟨turns, blank⟩ := Scheduler.fresh_readings (by decide) (by decide) new m.host.callerStack
  refine ⟨m', config, fresh, timer, m.host.callerStack, rfl, rfl, settings, quantum, live',
    control', new, dispatcher, ?_, ?_, turns, blank, ?_, ?_, ?_, stock ▸ tidy'.nodup, ?_⟩
  · simp [Host.currentTid, visible, dispatcher]
  · simp [Host.totalQuanta, visible, dispatcher]
  · rcases tenant.stack_cases with ⟨bare, main, _⟩ | ⟨stack, g, own, spawned, _⟩
    · simp [bare, main]
    · simp [own, spawned]
  · intro stack own
    rcases tenant.stack_cases with ⟨bare, _⟩ | ⟨stack', g, own', spawned, _⟩
    · simp [bare] at own
    · obtain rfl : stack' = stack := Option.some.inj (own'.symm.trans own)
      exact ⟨g, spawned⟩
  · simpa [host, Host.stock] using perm.append_right m.host.unmapped
  · have above : m'.host.nextBase = m.host.nextBase := by rw [host]
    have older : ∀ g b, m.control.actor = .spawned g b → g < m.host.generation := by
      intro g b spawned
      rw [spawned] at tenant
      rcases tenant.place with ⟨_, other⟩ | ⟨less, _⟩
      · exact absurd rfl other
      · exact less
    intro k
    rw [← above]
    exact hosted.aftermath tidy' older stock k

/-- A process in which a spawned thread is about to start over, while the first main thread and
another spawned thread wait. -/
def restarting : Machine :=
  run 21 (process
    [.call (.init 1000 none), .call (.spawn (some 0)), .call (.spawn (some 1)), .raise]
    [[.call (.init 2000 none), .call .current], []])

/-- The stack of the thread that waits is given back, and the process ends with the program of the
one that started over. -/
theorem only_caller_survives_reinit_spawned :
    ∃ m' : Machine, ∃ own other : Stack,
      restarting.control.actor = .spawned 0 own.base ∧ restarting.step.step = m' ∧
      m'.ending = none ∧ m'.host.currentTid homeThread = 0 ∧ m'.host.unmapped = [other] ∧
      own.base ≠ other.base ∧
      (∀ k, Aftermath (.spawned 0 own.base) 1 restarting.host.nextBase (some own) [other]
        (run k m')) ∧
      (run 8 m').ending = some .exited := by
  obtain ⟨m', config, fresh, timer, own, stepped, mine, _, _, live, _, _, _, current, _, _, _, _, _,
      _, _, aftermath⟩ :=
    only_caller_survives_reinit _ _ _ 21 (m := restarting) rfl (by decide +kernel)
      (by decide +kernel) (by decide +kernel) rfl (by decide) (by simp)
  subst stepped mine
  have actor : restarting.control.actor = .spawned 0 Host.firstBase := by decide +kernel
  have generation : restarting.host.generation = 1 := by decide +kernel
  have own : restarting.host.callerStack = some ⟨Host.firstBase, 69632⟩ := by decide +kernel
  have released : restarting.step.step.host.unmapped = [⟨Host.firstBase + 69632, 69632⟩] := by
    decide +kernel
  rw [actor, generation, own, released] at aftermath
  exact ⟨restarting.step.step, ⟨Host.firstBase, 69632⟩, ⟨Host.firstBase + 69632, 69632⟩, actor, rfl,
    live, current, released, by decide, aftermath, by decide +kernel⟩

end Machine

end RoundRobin
