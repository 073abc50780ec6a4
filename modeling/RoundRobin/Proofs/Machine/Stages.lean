import RoundRobin.Proofs.Machine.Phases

/-!
# What a process keeps

Something that holds of a process while it is bare, and something that holds of its dispatcher while
it is hosted, need be looked at in these two phases only: `Stage` carries both through a run. The
timer of a dispatcher, for one, stays armed.
-/

namespace RoundRobin

/-- Restarting a quantum leaves the timer armed. -/
theorem Restarted.isArmed {signal : Signal Nat} {timer timer' : Timer} {period : Nat}
    (restarted : Restarted signal timer timer' period) (armed : timer.isArmed signal) :
    timer'.isArmed { signal with period } := by
  cases restarted <;> exact armed

namespace Machine

variable {A A' : Actor → Option Nat → Prop} {m : Machine} {d d' : Dispatcher Control}

/-- The phase of a process of which `B` holds while it is bare, and `I` while a dispatcher is in
charge. -/
inductive Stage (A : Actor → Option Nat → Prop) (m : Machine) (B : Prop)
    (I : Dispatcher Control → Prop) : Prop where
  | ended (gone : m.ending.isSome)
  | foreign (owner : m.host.owner = some otherThread)
  | bare (bare : m.Bare A) (holds : B)
  | hosted (d : Dispatcher Control) (hosted : Hosted A m d) (holds : I d)
  | handedOver (d : Dispatcher Control) (handed : HandedOver m d)
  | leaving (live : m.ending = none) (nobody : m.host.dispatcher = none)
      (leaving : Leaving m.control)

variable {B B' : Prop} {I I' : Dispatcher Control → Prop}

theorem Stage.of_hosted (hosted : Hosted A m d)
    (goes : ∀ d', Hosted A m.step d' → I' d') : m.step.Stage A B' I' := by
  cases hosted.sequel with
  | ended gone => exact .ended gone
  | hosted d' next => exact .hosted d' next (goes d' next)
  | handedOver d' handed => exact .handedOver d' handed
  | leaving live nobody leaving => exact .leaving live nobody leaving

/-- What one step keeps. A bare process goes on by itself, or a first dispatcher is made; from then
on there is a dispatcher. -/
theorem Stage.step (stage : m.Stage A B I)
    (alone : m.Bare A → B → m.step.Bare A → m.Undisturbed m.step →
      (Calm .main m.control ∨ (m.step.host = m.host ∧ (m.control.Served m.step.control ∨
        ∃ guard, m.control = .preempt guard :: m.step.control))) → B')
    (installs : ∀ config guard did rest fresh made d', m.Bare A → B → Hosted A m.step d' →
      m.control = .perform (.install config) guard (.program did) :: rest →
      m.host.Installed config none [] fresh made → m.step.host = made.host →
      m.step.control = .restore guard :: .note did (.answer .done) :: rest → I' d')
    (goes : ∀ d d', Hosted A m d → I d → Hosted A m.step d' → I' d') : m.step.Stage A B' I' := by
  cases stage with
  | ended gone =>
    obtain ⟨e, ended⟩ := Option.isSome_iff_exists.mp gone
    rw [step_of_ended ended]
    exact .ended gone
  | foreign owner => exact .foreign (step_owner owner)
  | bare bare holds =>
    cases bare.transition with
    | own kept live shape awake masked owned how =>
      have next := bare.next kept live shape awake masked owned
      exact .bare next (alone bare holds next kept how)
    | quits kept ended => exact .ended ended
    | claimed foreign => exact .foreign foreign
    | left kept live leaving => exact .leaving live (kept.dispatcher.trans bare.nobody) leaving
    | installed user report owner live host control' control =>
      obtain ⟨timer, next⟩ :=
        Hosted.next_installed owner bare.admits user report bare.among .main live host control'
      exact .hosted _ next
        (installs _ _ _ _ _ _ _ bare holds next control report host control')
  | hosted d hosted holds => exact .of_hosted hosted fun d' => goes d d' hosted holds
  | handedOver d handed => exact .ended (by rw [handed.step.1]; rfl)
  | leaving live nobody leaving =>
    obtain ⟨kept, gone | ⟨live, leaving⟩⟩ := leaving.step live nobody
    · exact .ended gone
    · exact .leaving live (kept.dispatcher.trans nobody) leaving

theorem Stage.of_dispatcher (stage : m.Stage A B I) (live : m.ending = none)
    (home : m.host.owner ≠ some otherThread) (dispatcher : m.host.dispatcher = some d) :
    (Hosted A m d ∧ I d) ∨ HandedOver m d := by
  have same : ∀ {d'}, m.host.dispatcher = some d' → d' = d := fun there =>
    Option.some.inj (there.symm.trans dispatcher)
  cases stage with
  | ended gone => simp [live] at gone
  | foreign owner => exact absurd owner home
  | bare bare => simp [bare.nobody] at dispatcher
  | hosted d' hosted holds =>
    obtain rfl := same hosted.dispatcher
    exact .inl ⟨hosted, holds⟩
  | handedOver d' handed =>
    obtain rfl := same handed.dispatcher
    exact .inr handed
  | leaving _ nobody => simp [nobody] at dispatcher

/-- How a process begins. -/
theorem Begins.stage (begins : Begins m)
    (bare : ∀ main programs system, m = process main programs system → B)
    (hosted : ∀ capacity fresh config event main programs system,
      Scheduler.new capacity = .ok fresh → m = opened fresh config event main programs system →
      Hosted (fun _ _ => True) m (firstDispatcher fresh config) →
      I (firstDispatcher fresh config)) : m.Stage (fun _ _ => True) B I := by
  cases begins with
  | bare main programs system =>
    exact .bare (process_bare main programs system trivial (admits_all ..))
      (bare main programs system rfl)
  | hosted one fits started =>
    obtain ⟨config, fresh, event, _, new, opens⟩ := standalone_eq one fits started
    have first : Hosted (fun _ _ => True) m (firstDispatcher fresh config) :=
      opens ▸ opened_hosted one fits new _ _ _ _ _ trivial (admits_all ..)
    exact .hosted _ first (hosted _ fresh config event _ _ _ new opens first)

/-- The timer of a dispatcher stays armed. -/
theorem Hosted.armed_step (hosted : Hosted A m d)
    (armed : d.timer.isArmed m.host.signal) (next : Hosted A' m.step d') :
    d'.timer.isArmed m.step.host.signal := by
  obtain ⟨t, actor, slot, among, tenant, shape⟩ := hosted.current_slot
  have same : ∀ {e : Dispatcher Control}, m.step.host.dispatcher = some e → d' = e := fun there =>
    Option.some.inj (next.dispatcher.symm.trans there)
  cases hosted.transition tenant shape with
  | own _ _ kept =>
    obtain rfl := same (kept.dispatcher.trans hosted.dispatcher)
    obtain ⟨gate, pending, forwarded, signal⟩ := kept.signal
    rw [signal]
    cases clock : d'.timer <;> rw [clock] at armed <;> exact armed
  | quits _ _ ended => simp [next.live] at ended
  | failed f _ _ eq =>
    obtain rfl := same (by rw [eq]; exact hosted.dispatcher)
    rw [eq]
    exact armed
  | dispatched timer period _ _ _ _ _ _ host clock =>
    obtain rfl := same (congrArg Host.dispatcher host)
    rw [host]
    rcases clock with ⟨_, _, restarted⟩ | ⟨_, rfl, rfl⟩
    · exact restarted.isArmed armed
    · exact armed
  | reaped _ _ eq =>
    obtain rfl := same (congrArg (fun m' : Machine => m'.host.dispatcher) eq)
    rw [eq]
    exact armed
  | installed _ _ _ report _ _ _ host =>
    obtain ⟨timer, signal, made, _, armed⟩ := report.host
    obtain rfl := same (congrArg Host.dispatcher (host.trans made))
    rw [host, made]
    exact armed
  | disposed _ _ _ _ _ _ host =>
    have there := next.dispatcher
    simp [host] at there
  | exited _ _ _ ending => simp [next.live] at ending
  | handedOver _ _ _ _ _ _ _ _ _ _ host =>
    obtain rfl := same (congrArg Host.dispatcher host)
    rw [host]
    exact armed

theorem Begins.armed (begins : Begins m) (n : Nat) :
    (run n m).Stage (fun _ _ => True) True fun d => d.timer.isArmed (run n m).host.signal := by
  induction n with
  | zero => exact begins.stage (fun _ _ _ _ => trivial) fun _ _ _ _ _ _ _ _ _ _ => rfl
  | succ n ih =>
    rw [run_step]
    refine ih.step (fun _ _ _ _ _ => trivial) ?_ fun _ _ hosted armed => hosted.armed_step armed
    intro config guard did rest fresh made d' _ _ next _ report host _
    obtain ⟨timer, signal, made, _, armed⟩ := report.host
    obtain rfl := Option.some.inj
      (next.dispatcher.symm.trans (congrArg Host.dispatcher (host.trans made)))
    rw [host, made]
    exact armed

end Machine

end RoundRobin
