import RoundRobin.Proofs.Machine.Private

/-!
# Quanta and their restarts

The scheduler counts decisions and a manual timer counts the quanta that were restarted early. Both
counts can be read off the acts of the programs: a decision is made for each tick that is fired and
each time a thread gives up the processor, and the latter restarts the quantum. Between the act and
the decision there is one state of the process in which the decision is still owed.
-/

namespace RoundRobin

open Scheduler (Op)

section Back

variable {c c' : Control}

/-- Nobody comes back from the library with another request. -/
theorem Control.Served.asks_eq (served : c.Served c') (stackSize : Nat)
    (map : Nat → Except OsError Nat) : c'.asks stackSize map = none := by
  cases served <;> rfl

theorem Control.Advances.asks_eq {programs : List (List Instr)} {entry : Option Nat}
    (advances : c.Advances programs entry c') (stackSize : Nat) (map : Nat → Except OsError Nat) :
    c'.asks stackSize map = none := by
  cases advances with
  | served served => exact served.asks_eq ..
  | start | fetch => rfl

theorem Control.asks_of_awaits (awaits : c.awaits) (stackSize : Nat)
    (map : Nat → Except OsError Nat) : c.asks stackSize map = none := by
  unfold Control.awaits at awaits
  split at awaits
  · rfl
  · rfl
  · simp at awaits

end Back

/-- A call that gets into the library without starting over asks for what it says. -/
theorem Host.request_of_examine {κ : Type} {h h' : Host κ} {caller : OsThread} {c : Call Tid}
    {r : Request} (passed : h.examine caller c = .ok (.request r, h'))
    (stays : ∀ config, r ≠ .install config) : c.request = some r := by
  cases c with
  | init micros stackSize =>
    simp only [examine, bind_eq_ok] at passed
    obtain ⟨answer, _, passed⟩ := passed
    cases answer with
    | error e => simp at passed
    | ok config =>
      dsimp only at passed
      split at passed
      · simp only [pure_eq_ok, Except.ok.injEq, Prod.mk.injEq, Admission.request.injEq] at passed
        exact absurd passed.1.symm (stays config)
      · split at passed
        · simp only [pure_eq_ok, Except.ok.injEq, Prod.mk.injEq, Admission.request.injEq] at passed
          exact absurd passed.1.symm (stays config)
        · simp at passed
  | current | total => simp [examine] at passed
  | _ =>
    simp only [examine, letThrough, Except.ok.injEq] at passed
    split at passed
    · simp at passed
    · simp only [Prod.mk.injEq, Admission.request.injEq] at passed
      rw [← passed.1]
      rfl

namespace Machine

variable {A : Actor → Option Nat → Prop} {m m' : Machine} {d d' : Dispatcher Control}

def times (p : Machine → Bool) (m : Machine) (n : Nat) : Nat :=
  (List.range n).countP fun k => p (run k m)

theorem times_succ (p : Machine → Bool) (m : Machine) (n : Nat) :
    times p m (n + 1) = times p m n + (p (run n m)).toNat := by
  rw [times, times, List.range_succ, List.countP_append, List.countP_singleton]
  cases p (run n m) <;> rfl

/-- Whether the next step makes a decision that no tick calls for. -/
def restarts (m : Machine) : Bool :=
  match m.control with
  | .preempt _ :: _ => false
  | _ => m.decides

theorem restarts_of_idle (idle : m.decides = false) : m.restarts = false := by
  unfold restarts
  split
  · rfl
  · exact idle

theorem delivers_of_silent (silent : m.act = none) : m.delivers = false := by
  simp [delivers, silent]

theorem delivers_of_fire {t : ManualTimer Unit} (acts : m.act = some (.instr .fire))
    (dispatcher : m.host.dispatcher = some d) (manual : d.timer = .manual t) :
    m.delivers = t.isArmed := by
  cases d
  subst manual
  simp [delivers, acts, dispatcher]

theorem delivers_of_wants {r : Request} (wants : m.wants = some r) : m.delivers = false := by
  unfold delivers
  split
  · next acts _ => simp [Machine.wants, acts] at wants
  · rfl

theorem Hosted.reap_idle (hosted : Hosted A m d) {rest : Control}
    (control : m.control = .reap :: rest) (stackSize : Nat) (map : Nat → Except OsError Nat) :
    rest.asks stackSize map = none := by
  obtain ⟨_, _, _, _, _, shape⟩ := hosted.current_slot
  rw [control] at shape
  cases shape with
  | calm calm => exact absurd calm.outside (by simp [Control.inKernel])
  | reap calm => exact calm.asks_eq
  | arrive => rfl

theorem Dispatched.idle {op : Op} {back : Control} {given freed : Option Stack}
    {s : Scheduler Control} {timer : Timer} {period : Nat}
    (done : m.Dispatched d op back given freed s timer period m') (hosted : Hosted A m d)
    (stackSize : Nat) (map : Nat → Except OsError Nat) : m'.control.asks stackSize map = none := by
  rcases done.table.stays_or_waits hosted.coherent hosted.runs hosted.peopled with
    ⟨stays, same⟩ | waits
  · rw [same]
    exact (done.served stays).asks_eq ..
  · exact Control.asks_of_awaits waits ..

/-- A waiting signal would end the process. -/
theorem Private.still (own : Private m d) (hosted : Hosted A m d) (goesOn : m.step.ending = none) :
    m.host.signal.isDeliverable = false := by
  cases waits : m.host.signal.isDeliverable with
  | false => rfl
  | true =>
    simp [Machine.step, hosted.live, waits, deliver, Signal.deliver, own.deadly, finish] at goesOn

/-- A thread that goes on by itself owes a decision afterwards if it has fired its timer, and a
restart as well if it is about to give up the processor. -/
theorem Private.owes (own : Private m d) (hosted : Hosted A m d) (next : Hosted A m.step d)
    {actor : Actor} (calm : Calm actor m.control)
    (stride : Stride m m.control m.step.masked m.step.control) :
    m.step.decides.toNat = m.delivers.toNat + m.givesUp.toNat ∧ m.step.restarts = m.givesUp := by
  cases wants : m.wants with
  | some r =>
    obtain ⟨_, ⟨guard, caller, rest, control⟩, _⟩ := hosted.inside wants
    have decides := next.decides_perform control
    have gives : m.givesUp = r.yields d.scheduler.current := by
      simp [givesUp, wants, hosted.currentTid]
    simp [restarts, control, decides, gives, delivers_of_wants wants]
  | none =>
    have gives : m.givesUp = false := by simp [givesUp, wants]
    cases delivers : m.delivers with
    | true =>
      obtain ⟨rest, entered⟩ := step_delivers delivers
      have control : m.step.control = .preempt ⟨m.masked⟩ :: rest := by rw [entered]
      simp [restarts, control, next.decides_preempt control, gives]
    | false =>
      suffices idle : m.step.decides = false by
        simp [restarts_of_idle idle, idle, gives]
      -- Whatever else takes a program into the library asks for no decision, so it would have to be
      -- one of the acts that were ruled out above.
      refine decides_idle next.dispatcher ?_
      cases asks : m.step.control.asks d.config.stackSize m.step.mapping with
      | none => rfl
      | some op =>
        have still := own.still hosted next.live
        have later := stride.isLocal (own.current hosted)
        have entry := stride.entry calm (Control.asks_inKernel asks)
        generalize control : m.control = c, m.step.control = c' at entry asks later
        cases entry with
        | @asks call r host passed is rest =>
          have stays : ∀ config, r ≠ .install config := by
            rintro config rfl
            simp [Control.isLocal, Frame.isLocal] at later
          have acts : m.act = some (.instr (.call call)) := by
            simp [act, hosted.live, still, control]
          simp [Machine.wants, acts, Host.request_of_examine passed stays] at wants
        | fires _ is rest =>
          have acts : m.act = some (.instr .fire) := by simp [act, hosted.live, still, control]
          obtain ⟨t, manual, armed⟩ := own.manual
          rw [delivers_of_fire acts hosted.dispatcher manual, armed] at delivers
          simp at delivers
        | closes | leaves => simp [Control.asks] at asks
        | ends tid caller generation base rest =>
          have acts : m.act = some .ending := by simp [act, hosted.live, still, control]
          simp [Machine.wants, acts] at wants
        | interrupted handled => simp [own.deadly] at handled

/-- After `n` steps all decisions but the one still owed are in the counter, and all restarts but
the one still owed in the timer. -/
def Accounted (m₀ : Machine) (n : Nat) (d : Dispatcher Control) : Prop :=
  ∃ t, d.timer = .manual t ∧
    d.scheduler.total + (run n m₀).decides.toNat =
      1 + m₀.times delivers n + m₀.times givesUp n ∧
    t.rearms + (run n m₀).restarts.toNat = m₀.times givesUp n

/-- A step inside the library pays what was owed. -/
theorem Accounted.paid {m₀ : Machine} {n : Nat} {t' : ManualTimer Unit}
    (accounted : Accounted m₀ n d) (silent : (run n m₀).act = none)
    (idle : (run n m₀).step.decides = false) (manual' : d'.timer = .manual t')
    (total : d'.scheduler.total = d.scheduler.total + (run n m₀).decides.toNat)
    (rearms : ∀ t, d.timer = .manual t → t'.rearms = t.rearms + (run n m₀).restarts.toNat) :
    Accounted m₀ (n + 1) d' := by
  obtain ⟨t, manual, decisions, restarted⟩ := accounted
  have gives : (run n m₀).givesUp = false := by simp [givesUp, wants_of_silent silent]
  refine ⟨t', manual', ?_, ?_⟩
  · rw [run_step, times_succ, times_succ, idle, delivers_of_silent silent, gives, total]
    exact decisions
  · rw [run_step, times_succ, restarts_of_idle idle, gives, rearms t manual]
    exact restarted

theorem Accounted.step {m₀ : Machine} {n : Nat} (accounted : Accounted m₀ n d)
    (own : Private (run n m₀) d) (hosted : Hosted A (run n m₀) d)
    (next : Hosted A (run n m₀).step d') (progress : (run n m₀).Progress d (run n m₀).step d') :
    Accounted m₀ (n + 1) d' := by
  obtain ⟨clock, manual, _⟩ := own.manual
  cases progress with
  | own how idle kept =>
    have before := decides_idle hosted.dispatcher idle
    rcases how with ⟨actor, calm, stride⟩ | advances
    · obtain ⟨t, manual, total, rearms⟩ := accounted
      obtain ⟨owed, restart⟩ := own.owes hosted next calm stride
      rw [before, Bool.toNat_false] at total
      rw [restarts_of_idle before, Bool.toNat_false] at rearms
      refine ⟨t, manual, ?_, ?_⟩
      · rw [run_step, times_succ, times_succ]
        omega
      · rw [run_step, times_succ, restart]
        omega
    · refine accounted.paid (act_eq_none_of_kernel advances.inKernel)
        (decides_idle next.dispatcher (advances.asks_eq ..)) manual ?_ ?_
      · rw [before, Bool.toNat_false, Nat.add_zero]
      · intro t same
        cases manual.symm.trans same
        rw [restarts_of_idle before, Bool.toNat_false, Nat.add_zero]
  | @dispatched op back given freed s timer period done =>
    have silent := act_eq_none_of_kernel (Control.asks_inKernel done.asked)
    have idle := decides_idle next.dispatcher (done.idle hosted ..)
    have total := total_dispatched hosted.live hosted.dispatcher done.asked done.table
    rcases done.clock with ⟨ordinary, decides, restarted⟩ | ⟨ticks, same, _⟩
    · rw [manual] at restarted
      cases restarted with
      | manual =>
        refine accounted.paid silent idle rfl total fun t same => ?_
        cases manual.symm.trans same
        have restarts : (run n m₀).restarts = true := by
          unfold Machine.restarts
          split
          · next control =>
            have asked := done.asked
            rw [control, Control.asks, Option.some.injEq] at asked
            exact absurd asked.symm ordinary
          · exact decides
        rw [restarts]
        rfl
    · refine accounted.paid silent idle (same.trans manual) total fun t there => ?_
      cases manual.symm.trans there
      have restarts : (run n m₀).restarts = false := by
        rcases ticks with rfl | none
        · obtain ⟨guard, rest, control⟩ := Control.preempt_of_asks done.asked
          simp [Machine.restarts, control]
        · exact restarts_of_idle none
      rw [restarts]
      rfl
  | reaped control unmapped =>
    have before : (run n m₀).decides = false :=
      decides_idle hosted.dispatcher (by rw [control]; rfl)
    refine accounted.paid (act_eq_none_of_kernel (by rw [control]; rfl))
      (decides_idle next.dispatcher (hosted.reap_idle control ..)) manual ?_ ?_
    · rw [before]
      rfl
    · intro t same
      cases manual.symm.trans same
      rw [restarts_of_idle before]
      rfl

theorem Dispatched.currentTid {op : Op} {back : Control} {given freed : Option Stack}
    {s : Scheduler Control} {timer : Timer} {period : Nat}
    (done : m.Dispatched d op back given freed s timer period m') (hosted : Hosted A m d) :
    m'.host.currentTid homeThread = s.current := by
  simp [done.host, Host.currentTid, Host.visible, Host.refusal, hosted.owner, Dispatcher.publish]

/-- Whoever gives up the processor is followed by another thread. -/
theorem Hosted.gives_up (hosted : Hosted A m d) (gives : m.givesUp)
    (few : d.scheduler.total < wordMax) :
    m.step.step.host.currentTid homeThread ≠ m.host.currentTid homeThread := by
  rw [hosted.currentTid]
  cases wants : m.wants with
  | none => simp [givesUp, wants] at gives
  | some r =>
    obtain ⟨inside, _, asks, _⟩ := hosted.inside wants
    have yields : r.yields d.scheduler.current := by
      simpa [givesUp, wants, hosted.currentTid] using gives
    cases asked : r.op d.config.stackSize m.step.mapping with
    | none => cases r <;> simp [Request.op, Request.yields] at asked yields
    | some op =>
      obtain ⟨spawned, yields⟩ := (Request.yields_iff asked _).mp yields
      have other : op ≠ .terminate 0 := by
        rintro rfl
        simp [Ne.symm spawned] at yields
      rcases inside.asked_step (asks.trans asked) other with
        ⟨back, given, freed, s, timer, period, done⟩ | ⟨_, ⟨full, _⟩ | large⟩
      · rw [done.currentTid inside]
        exact done.table.switches hosted.coherent hosted.runs spawned yields
      · exact absurd few (Nat.not_lt_of_le full)
      · rcases yields with rfl | rfl | ⟨quanta, _, rfl⟩ <;> exact large.elim

/-- A tick is of no consequence if nobody waits and nobody is to be woken. -/
theorem Hosted.ticks (hosted : Hosted A m d) (delivers : m.delivers)
    (few : d.scheduler.total < wordMax) :
    m.step.step.host.currentTid homeThread = m.host.currentTid homeThread ↔
      d.scheduler.ready.toList = [] ∧ ∀ (i : Tid) (t : Thread Control),
        d.scheduler.threads[i]? = some t → t.state = .sleeping →
          d.scheduler.total < t.wakeAt := by
  rw [hosted.currentTid]
  obtain ⟨rest, entered⟩ := step_delivers delivers
  have inside := hosted.entered entered
  have asked : m.step.control.asks d.config.stackSize m.step.mapping = some .schedule := by
    rw [entered]
    rfl
  rcases inside.asked_step asked (by simp) with
    ⟨back, given, freed, s, timer, period, done⟩ | ⟨_, ⟨full, _⟩ | large⟩
  · rw [done.currentTid inside]
    exact done.table.tick_stays_iff hosted.coherent hosted.runs
  · exact absurd few (Nat.not_lt_of_le full)
  · exact large.elim

theorem opened_accounted {capacity : Nat} {fresh : Scheduler Control}
    (new : Scheduler.new capacity = .ok fresh) (config : Config) (event : Event)
    (main : List Instr) (programs : List (List Instr)) (system : System) :
    Accounted (opened fresh config event main programs system) 0
      (firstDispatcher fresh config) := by
  refine ⟨_, rfl, ?_, rfl⟩
  have one : (fresh.withStack 0 none).total = 1 := (Scheduler.new_fields new).2.1
  rw [firstDispatcher, one]
  rfl

/-- Every decision of a process with a manual timer of its own is one for a tick that its programs
fired, or one for a thread that gave up the processor of its own accord; and the quantum was
restarted as often as that. Whoever gives up the processor is followed by somebody else, and a tick
leaves the running thread in place if nobody waits in the queue and no sleeper's deadline has
come. -/
theorem decisions_accounted_for {capacity micros : Nat} {stackSize : Option Nat}
    {main : List Instr} {programs : List (List Instr)} {system : System} {m : Machine}
    (one : 1 ≤ capacity) (fits : capacity < 2 ^ 60)
    (started : standalone capacity micros stackSize none main programs system = .ok (.ok m))
    (here : areLocal main) (code : ∀ program ∈ programs, areLocal program) (n : Nat) {a : Act}
    (acts : (run n m).act = some a) :
    ∃ d t, (run n m).host.visible homeThread = some d ∧ d.timer = .manual t ∧ t.isArmed ∧
      (run n m).host.totalQuanta homeThread = 1 + m.times delivers n + t.rearms ∧
      t.rearms = m.times givesUp n ∧
      ((run n m).host.totalQuanta homeThread < wordMax →
        ((run n m).givesUp →
          (run (n + 2) m).host.currentTid homeThread ≠ (run n m).host.currentTid homeThread) ∧
        ((run n m).delivers →
          ((run (n + 2) m).host.currentTid homeThread = (run n m).host.currentTid homeThread ↔
            d.scheduler.ready.toList = [] ∧ ∀ (i : Tid) (t : Thread Control),
              d.scheduler.threads[i]? = some t → t.state = .sleeping →
                (run n m).host.totalQuanta homeThread < t.wakeAt))) := by
  obtain ⟨config, fresh, event, _, new, rfl⟩ := standalone_eq one fits started
  have hosted := opened_hosted (A := fun _ _ => True) one fits new config event main programs
    system trivial (admits_all ..)
  have ran := (opened_private new config event here code).run hosted
    (opened_accounted new config event main programs system)
    (fun n d d' hosted own accounted => accounted.step own hosted) n
  generalize opened fresh config event main programs system = m at acts ran ⊢
  rcases ran with gone | ⟨d, hosted, own, t, manual, total, rearms⟩
  · simp [gone.silent] at acts
  have idle : (run n m).decides = false := by
    obtain ⟨_, _, _, _, _, shape⟩ := hosted.current_slot
    exact decides_idle hosted.dispatcher (Shape.calm_of_act shape acts).asks_eq
  rw [idle, Bool.toNat_false, Nat.add_zero] at total
  rw [restarts_of_idle idle, Bool.toNat_false, Nat.add_zero] at rearms
  obtain ⟨t', manual', armed⟩ := own.manual
  cases manual.symm.trans manual'
  rw [run_step, run_step, hosted.totalQuanta]
  exact ⟨d, t, hosted.visible, manual, armed, by rw [total, rearms], rearms,
    fun few => ⟨fun gives => hosted.gives_up gives few, fun fires => hosted.ticks fires few⟩⟩

/-- The main thread spawns two threads and lets them run. Later it fires its timer for nobody, and
once more after it has resumed the first one. -/
def idlersMain : List Instr :=
  [.call (.spawn (some 0)), .call (.spawn (some 1)), .fire, .fire, .call (.resume (.tid 1)), .fire]

def idlersPrograms : List (List Instr) := [[.call (.block .self)], [.call (.sleep 3)]]

def idlers : Machine :=
  match standalone 4 1000 none none idlersMain idlersPrograms with
  | .ok (.ok m) => m
  | _ => process [] []

/-- The second tick finds nobody in the queue and the sleeper's deadline still to come. When the
first thread is about to end there have been three ticks, a block and a sleep. -/
theorem decisions_accounted_for_idlers :
    (∃ d, (run 29 idlers).host.visible homeThread = some d ∧ d.scheduler.ready.toList = [] ∧
        ∀ (i : Tid) (t : Thread Control), d.scheduler.threads[i]? = some t →
          t.state = .sleeping → 4 < t.wakeAt) ∧
      (∃ d t, (run 45 idlers).host.visible homeThread = some d ∧ d.timer = .manual t ∧
        t.rearms = 2 ∧ (run 45 idlers).host.totalQuanta homeThread = 1 + 3 + t.rearms) ∧
      (run 45 idlers).givesUp ∧
      (run 47 idlers).host.currentTid homeThread ≠ (run 45 idlers).host.currentTid homeThread := by
  have started : standalone 4 1000 none none idlersMain idlersPrograms = .ok (.ok idlers) := rfl
  have code : ∀ program ∈ idlersPrograms, areLocal program := by decide
  obtain ⟨d, _, seen, _, _, _, _, moves⟩ :=
    decisions_accounted_for (by decide) (by decide) started (by decide) code 29 rfl
  obtain ⟨queue, early⟩ :=
    ((moves (by decide +kernel)).2 (by decide +kernel)).mp (by decide +kernel)
  have four : (run 29 idlers).host.totalQuanta homeThread = 4 := by decide +kernel
  rw [four] at early
  obtain ⟨d', t, seen', manual, _, total, rearms, moves'⟩ :=
    decisions_accounted_for (by decide) (by decide) started (by decide) code 45 rfl
  have fired : idlers.times delivers 45 = 3 := by decide +kernel
  have given : idlers.times givesUp 45 = 2 := by decide +kernel
  have gives : (run 45 idlers).givesUp := by decide +kernel
  exact ⟨⟨d, seen, queue, early⟩, ⟨d', t, seen', manual, rearms.trans given, fired ▸ total⟩, gives,
    (moves' (by decide +kernel)).1 gives⟩

end Machine

end RoundRobin
