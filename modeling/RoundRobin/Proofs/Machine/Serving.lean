import RoundRobin.Proofs.Host.Foreign
import RoundRobin.Proofs.Machine.Asking

/-!
# Requests served in steps

`Host.serve` and `Host.preempt` say at one go what comes of a request and of a tick. A machine does
the same step by step: it performs the request, stores what the outgoing thread is left with, takes
up the incoming one and has it clear up and leave its section.
-/

namespace RoundRobin

variable {kept guard : Guard} {rest : Control}

/-- How a thread goes on that is taken up. What it does first is clear up; after that it leaves the
section that it was suspended in, by itself or by a tick of the signal, or gets out of the one that
its first switch was made in. -/
inductive Control.Resumes : Guard → Control → Prop where
  | suspended (kept : Guard) (rest : Control) : Resumes kept (.reap :: .restore kept :: rest)
  | ticked (kept : Guard) (rest : Control) :
      Resumes kept (.reap :: .restore ⟨true⟩ :: .restore kept :: rest)
  | fresh (generation base : Nat) : Resumes ⟨false⟩ [.start generation base]

/-- The switch that a request of a program calls for, and what is left to do for the thread. -/
def Outcome.leaves (guard : Guard) (did : Deed) (rest : Control) :
    Outcome → Option (Switch × Control)
  | .suspends s => some (s, .reap :: .restore guard :: .note did (.answer .done) :: rest)
  | .ends s => some (s, .reap :: .abort .endedRanAgain :: rest)
  | .handsOver s => some (s, .abort .ranAfterShutdown :: rest)
  | .returns _ | .exits => none

namespace Host

variable {κ : Type} {h h' : Host κ} {d : Dispatcher κ}

theorem Fulfilled.gate {map : Nat → Except OsError Nat} {prime : Nat → Tid → Stack → Option κ}
    {r : Request} {report : Report κ} (fulfilled : h.Fulfilled d map prime r (.ok report)) :
    report.host.signal.gate = h.signal.gate := by
  cases fulfilled with
  | looked | answered | yielded | handedOver => rfl
  | exited =>
    obtain ⟨timer, signal, torn, gate, _⟩ :=
      h.teardown_eq { d with scheduler := { d.scheduler with shutdown := true } }
    rw [torn]
    exact gate

theorem enter_masked (masked : h.signal.masked) : h.enter = (⟨true⟩, h) := by
  have gate : h.signal.gate = ⟨true⟩ := congrArg Gate.mk masked
  have entered : h.enter =
      (⟨h.signal.masked⟩, { h with signal := { h.signal with gate := ⟨true⟩ } }) := rfl
  rw [entered, masked, ← gate]

theorem leave_masked (masked : h.signal.masked) : h.leave ⟨true⟩ = h := by
  have gate : h.signal.gate = ⟨true⟩ := congrArg Gate.mk masked
  simp only [leave, Signal.leave, Gate.leave, ← gate]

theorem reap_dispatcher (h : Host κ) (d : Dispatcher κ) :
    ∃ d', (h.reap d).2.dispatcher = some d' := by
  unfold reap
  dsimp only
  split
  · obtain ⟨timer, signal, torn, _⟩ := ((h.put _).unmap _).teardown_eq _
    rw [torn]
    exact ⟨_, rfl⟩
  · exact ⟨_, rfl⟩

end Host

namespace Machine

variable {A : Actor → Option Nat → Prop} {m : Machine} {d : Dispatcher Control}
  {h h' : Host Control} {exits : Bool} {back : Control}

/-- The machine gets by itself to where its host is `h`, and exits there or goes on. -/
def GetsTo (m : Machine) (exits : Bool) (h : Host Control) : Prop :=
  ∃ n, (run n m).host = h ∧ (run n m).ending = if exits then some .exited else none

theorem getsTo_host (live : m.ending = none) : m.GetsTo false m.host := ⟨0, rfl, live⟩

theorem GetsTo.of_step (later : m.step.GetsTo exits h) : m.GetsTo exits h := by
  obtain ⟨n, there⟩ := later
  exact ⟨n + 1, by rwa [run_succ]⟩

/-- Behind the mask the first frame is worked off first. -/
theorem GetsTo.of_work {frame : Frame} (live : m.ending = none) (masked : m.masked)
    (control : m.control = frame :: rest) (later : (m.work rest frame).GetsTo exits h) :
    m.GetsTo exits h := by
  rw [← step_of_masked live masked control] at later
  exact .of_step later

theorem getsTo_leave (live : m.ending = none) (masked : m.masked)
    (control : m.control = .restore guard :: rest) : m.GetsTo false (m.host.leave guard) :=
  .of_work live masked control (getsTo_host live)

/-- An inner section is left with the mask still set, and then the outer one. -/
theorem getsTo_leave_twice (live : m.ending = none) (masked : m.masked)
    (control : m.control = .restore ⟨true⟩ :: .restore guard :: rest) :
    m.GetsTo false (m.host.leave guard) := by
  refine .of_work live masked control ?_
  rw [work, Host.leave_masked masked]
  exact getsTo_leave (m := { m with control := .restore guard :: rest }) live masked rfl

theorem getsTo_unmask (live : m.ending = none) (masked : m.masked)
    (control : m.control = .restore ⟨true⟩ :: .unmask :: rest) :
    m.GetsTo false (m.host.leave ⟨false⟩) := by
  refine .of_work live masked control ?_
  rw [work, Host.leave_masked masked]
  exact .of_work (m := { m with control := .unmask :: rest }) live masked rfl (getsTo_host live)

/-- Whoever is taken up clears up first, and leaves its section unless the process exits by that. -/
theorem getsTo_reap (live : m.ending = none) (masked : m.masked)
    (there : m.host.dispatcher = some d) (control : m.control = .reap :: rest)
    (leaves : ∀ m' : Machine, m'.ending = none → m'.masked → (∃ d', m'.host.dispatcher = some d') →
      m'.control = rest → m'.GetsTo false (m'.host.leave kept)) :
    m.GetsTo (m.host.reap d).1
      (if (m.host.reap d).1 then (m.host.reap d).2 else (m.host.reap d).2.leave kept) := by
  have inside : (m.host.reap d).2.signal.masked := by
    rw [Signal.masked, Host.reap_gate]
    exact masked
  refine .of_work live masked control ?_
  rw [work, reap, there]
  dsimp only
  split
  · next exits => exact ⟨0, rfl, by simp [exits, run, finish]⟩
  · next stays =>
    simp only [stays]
    exact leaves _ live inside (m.host.reap_dispatcher d) rfl

theorem getsTo_resumed (live : m.ending = none) (masked : m.masked)
    (there : m.host.dispatcher = some d) (resumes : m.control.Resumes kept) :
    m.GetsTo (m.host.reap d).1
      (if (m.host.reap d).1 then (m.host.reap d).2 else (m.host.reap d).2.leave kept) := by
  generalize held : m.control = c at resumes
  cases resumes with
  | suspended kept rest =>
    exact getsTo_reap live masked there held fun _ live' inside _ => getsTo_leave live' inside
  | ticked kept rest =>
    exact getsTo_reap live masked there held fun _ live' inside _ => getsTo_leave_twice live' inside
  | fresh generation base =>
    refine .of_work live masked held ?_
    rw [work, guarded, Host.enter_masked masked]
    refine getsTo_reap (m := { m with control := [.reap, .fetch generation base ⟨true⟩] }) live
      masked there rfl fun m' live' inside seated control => ?_
    obtain ⟨d', there'⟩ := seated
    refine .of_work live' inside control ?_
    rw [work, fetch, there']
    exact getsTo_unmask (m := { m' with control := _ }) live' inside rfl

/-- A switch is made, and the incoming thread does what comes first. -/
theorem getsTo_switched {s : Switch} (live : m.ending = none) (masked : m.masked)
    (switched : m.host.switchOver s back kept = .ok (exits, h'))
    (resumes : (m.switch s back).control.Resumes kept) : (m.switch s back).GetsTo exits h' := by
  obtain ⟨next, between, d, exchanged, there, rfl, rfl⟩ := Host.switchOver_inv switched
  obtain ⟨dispatcher, rfl⟩ := Host.exchange_inv exchanged
  have taken : m.switch s back = { m with host.dispatcher := dispatcher, control := next } := by
    rw [Machine.switch, exchanged]
    rfl
  rw [taken] at resumes ⊢
  exact getsTo_resumed (m := { m with host.dispatcher := dispatcher, control := next }) live masked
    there resumes

/-- What `Host.serve` says of a request the machine does that has entered the section for it: it
returns to the program, or exits, or stores what is left to do for the thread and takes up another
one. -/
theorem Hosted.serves (hosted : Hosted A m d) {r : Request} {did : Deed} {outcome : Outcome}
    (entered : h.enter = (guard, m.host))
    (control : m.control = .perform r guard (.program did) :: rest)
    (other : ∀ config, r ≠ .install config)
    (served : h.serve m.objections primeControl r back kept = .ok (outcome, exits, h'))
    (leaving : ∀ s left, outcome.leaves guard did rest = some (s, left) →
      back = left ∧ m.step.control.Resumes kept) : m.GetsTo exits h' := by
  have masked : m.masked := hosted.masked (by rw [control]; rfl)
  have fulfilled : m.host.Fulfilled d m.mapping primeControl r
      (m.host.perform m.objections primeControl r) :=
    Host.fulfilled hosted.dispatcher hosted.coherent hosted.runs other
  simp only [Host.serve, Host.carryOut, entered, bind_eq_ok] at served
  obtain ⟨report, ⟨made, performed, carried⟩, served⟩ := served
  rw [performed] at fulfilled
  have inside : made.host.signal.masked := by
    rw [Signal.masked, fulfilled.gate]
    exact masked
  let told : Machine := { m with host := made.host }.log made.events
  have followed : m.work rest (.perform r guard (.program did)) =
      told.follow made.outcome guard (.program did) rest := by rw [work, perform, performed]; rfl
  have stepped := (step_of_masked hosted.live masked control).trans followed
  have switches : ∀ s left, made.outcome.leaves guard did rest = some (s, left) →
      told.follow made.outcome guard (.program did) rest = told.switch s left →
      (made.host.switchOver s back kept >>= fun x => .ok (made.outcome, x.1, x.2)) =
        .ok (outcome, exits, h') → (told.switch s left).GetsTo exits h' := by
    intro s left leaves goes served
    simp only [bind_eq_ok, Except.ok.injEq, Prod.mk.injEq] at served
    obtain ⟨⟨_, _⟩, switched, rfl, rfl, rfl⟩ := served
    obtain ⟨rfl, resumes⟩ := leaving s left leaves
    rw [stepped, goes] at resumes
    exact getsTo_switched (m := told) hosted.live inside switched resumes
  refine .of_work hosted.live masked control ?_
  rw [followed]
  obtain ⟨outcome', events, host⟩ := made
  cases outcome' with
  | returns a =>
    obtain rfl := Except.ok.inj carried
    obtain ⟨_, same⟩ := Prod.mk.inj (Except.ok.inj served)
    obtain ⟨rfl, rfl⟩ := Prod.mk.inj same
    exact getsTo_leave (m := { told with control := _ }) hosted.live inside rfl
  | suspends s | ends s | handsOver s =>
    obtain rfl := Except.ok.inj carried
    exact switches s _ rfl rfl served
  | exits =>
    obtain rfl := Except.ok.inj carried
    obtain ⟨_, same⟩ := Prod.mk.inj (Except.ok.inj served)
    obtain ⟨rfl, rfl⟩ := Prod.mk.inj same
    exact ⟨0, rfl, rfl⟩

/-- What `Host.preempt` says of a tick the machine does that has entered the section for it. -/
theorem Hosted.preempts (hosted : Hosted A m d) (entered : m.host = h.enter.2)
    (control : m.control = .preempt guard :: rest)
    (preempted : h.preempt (.reap :: .restore guard :: rest) kept = .ok (exits, h'))
    (resumes : m.step.control.Resumes kept) : m.GetsTo exits h' := by
  have masked : m.masked := hosted.masked (by rw [control]; rfl)
  have there : h.dispatcher = some d := by
    rw [← hosted.dispatcher, entered]
    rfl
  simp only [Host.preempt, there, bind_eq_ok, Prod.exists, ← entered] at preempted
  obtain ⟨s, host, rescheduled, switched⟩ := preempted
  have worked : m.work rest (.preempt guard) =
      { m with host }.switch s (.reap :: .restore guard :: rest) := by
    rw [work, preempt, hosted.dispatcher]
    simp only [rescheduled, proceed]
  have inside : host.signal.masked := by
    simp only [Host.reschedule, bind_eq_ok, Prod.exists, pure_eq_ok, Except.ok.injEq,
      Prod.mk.injEq] at rescheduled
    obtain ⟨_, _, _, _, rfl⟩ := rescheduled
    exact masked
  rw [step_of_masked hosted.live masked control, worked] at resumes
  refine .of_work hosted.live masked control ?_
  rw [worked]
  exact getsTo_switched (m := { m with host }) hosted.live inside switched resumes

/-- A program's call is served. -/
theorem Hosted.serves_call (hosted : Hosted A m d) (still : m.host.signal.isDeliverable = false)
    {c : Call Target} {is : List Instr} (control : m.control = .run (.call c :: is) :: rest)
    {r : Request} (asks : (c.map m.resolve).request = some r) {outcome : Outcome}
    (served : m.host.serve m.step.objections primeControl r back kept = .ok (outcome, exits, h'))
    (leaving : ∀ s left, outcome.leaves ⟨m.masked⟩ c.deed (.run is :: rest) = some (s, left) →
      back = left ∧ m.step.step.control.Resumes kept) : m.GetsTo exits h' := by
  have entered := step_request hosted.live still hosted.visible control asks
  refine .of_step ((hosted.entered entered).serves ?_ ?_ (Call.request_ne_install asks) served
    leaving)
  · rw [entered]
    rfl
  · rw [entered]

/-- A program that fires its timer is preempted. -/
theorem Hosted.preempts_firing (hosted : Hosted A m d) (still : m.host.signal.isDeliverable = false)
    {is : List Instr} (control : m.control = .run (.fire :: is) :: rest) {t : ManualTimer Unit}
    (manual : d.timer = .manual t) (armed : t.isArmed)
    (preempted : m.host.preempt
      (.reap :: .restore ⟨m.masked⟩ :: .note .ticked (.fired true) :: .run is :: rest) kept =
        .ok (exits, h'))
    (resumes : m.step.step.control.Resumes kept) : m.GetsTo exits h' := by
  have entered : m.step =
      { m with
        host := { m.host with signal := m.host.signal.enter.2 }
        control := .preempt ⟨m.masked⟩ :: .note .ticked (.fired true) :: .run is :: rest } := by
    have there := hosted.dispatcher
    obtain ⟨_, _, _, _, timer, _⟩ := d
    obtain rfl : timer = .manual t := manual
    rw [step_of_frame hosted.live still control, work, execute, fire, there]
    dsimp only
    rw [if_pos armed]
    rfl
  refine .of_step ((hosted.entered entered).preempts (h := m.host) ?_ ?_ preempted resumes)
  · rw [entered]
    rfl
  · rw [entered]

end Machine

end RoundRobin
