import RoundRobin.Proofs.Host.Owner
import RoundRobin.Proofs.Machine.Control
import RoundRobin.Proofs.Preemption.Signal

/-!
# A thread by itself

Between two requests a thread touches nothing but its own control, the mask, the waiting signal and
the trace. `solo` says so of every step from a calm control, whatever the program is: afterwards the
control has a shape again, or the process has ended, or a call from another OS thread has made that
thread the owner.
-/

namespace RoundRobin

namespace Machine

variable {m m' : Machine} {actor : Actor} {tid : Tid}

/-- A step that leaves the dispatcher, the stacks and the settings of the signal alone. It may make
the home thread the owner. -/
structure Undisturbed (m m' : Machine) : Prop where
  programs : m'.programs = m.programs
  dispatcher : m'.host.dispatcher = m.host.dispatcher
  generation : m'.host.generation = m.host.generation
  nextBase : m'.host.nextBase = m.host.nextBase
  unmapped : m'.host.unmapped = m.host.unmapped
  owner : m'.host.owner = m.host.owner ∨
    (m.host.owner = none ∧ m'.host.owner = some homeThread)
  signal : ∃ gate pending forwarded,
    m'.host.signal = { m.host.signal with gate, pending, forwarded }

/-- What the running thread, `actor` under the number `tid`, does by itself. -/
inductive Solo (tid : Tid) (actor : Actor) (m m' : Machine) : Prop where
  | on (kept : m.Undisturbed m') (live : m'.ending = none) (shape : Shape tid actor m'.control)
      (settled : m'.control.awaits = false) (masked : m'.control.inKernel → m'.masked)
      (owned : ∀ r guard did rest, m'.control = .perform r guard (.program did) :: rest →
        m'.host.owner = some homeThread)
  | quits (kept : m.Undisturbed m') (ended : m'.ending.isSome)
  | claimed (unowned : m.host.owner = none) (foreign : m'.host.owner = some otherThread)

theorem Undisturbed.same (programs : m'.programs = m.programs) (host : m'.host = m.host) :
    m.Undisturbed m' :=
  ⟨programs, by rw [host], by rw [host], by rw [host], by rw [host], .inl (by rw [host]), _, _, _,
    by rw [host]⟩

theorem Undisturbed.stirred {gate : Gate} {pending : Bool} {forwarded : Nat}
    (programs : m'.programs = m.programs)
    (host : m'.host =
      { m.host with signal := { m.host.signal with gate, pending, forwarded } }) :
    m.Undisturbed m' :=
  ⟨programs, by rw [host], by rw [host], by rw [host], by rw [host], .inl (by rw [host]), _, _, _,
    by rw [host]⟩

theorem step_of_ended {e : Ending} (ended : m.ending = some e) : m.step = m := by
  simp [step, ended]

theorem run_of_ended {e : Ending} (ended : m.ending = some e) (n : Nat) : run n m = m := by
  cases n <;> simp [run, ended]

theorem run_succ (n : Nat) (m : Machine) : run (n + 1) m = run n m.step := by
  cases ended : m.ending with
  | none => simp [run, ended]
  | some e => simp [step_of_ended ended, run_of_ended ended]

theorem run_step (n : Nat) (m : Machine) : run (n + 1) m = (run n m).step := by
  induction n generalizing m with
  | zero => rw [run_succ]; rfl
  | succ n ih => rw [run_succ, ih, ← run_succ]

theorem run_add (k n : Nat) (m : Machine) : run (k + n) m = run n (run k m) := by
  induction n with
  | zero => rfl
  | succ n ih => rw [← Nat.add_assoc, run_step, ih, ← run_step]

/-- Nothing happens to a process that has ended. -/
theorem run_stays {e : Ending} {k n : Nat} (ended : (run k m).ending = some e) (later : k ≤ n) :
    run n m = run k m := by
  rw [← Nat.add_sub_cancel' later, run_add, run_of_ended ended]

/-- A process ends once. -/
theorem ending_of_run {e : Ending} {n : Nat} (ended : (run n m).ending = some e) (k : Nat) :
    (run k m).ending = none ∨ (run k m).ending = some e := by
  cases ends : (run k m).ending with
  | none => exact .inl rfl
  | some e' =>
    rcases Nat.le_total n k with later | earlier
    · rw [run_stays ended later, ended] at ends
      exact .inr ends.symm
    · rw [run_stays ends earlier, ends] at ended
      exact .inr ended

/-- A process that has not ended had not ended before. -/
theorem live_of_run {n : Nat} (live : (run n m).ending = none) : m.ending = none := by
  cases ended : m.ending with
  | none => rfl
  | some e => simp [run_of_ended ended, ended] at live

theorem step_of_frame {frame : Frame} {rest : Control} (live : m.ending = none)
    (still : m.host.signal.isDeliverable = false) (control : m.control = frame :: rest) :
    m.step = m.work rest frame := by
  simp [step, live, still, control]

/-- Behind the mask no signal comes first. -/
theorem step_of_masked {frame : Frame} {rest : Control} (live : m.ending = none)
    (masked : m.masked) (control : m.control = frame :: rest) : m.step = m.work rest frame := by
  have masked : m.host.signal.masked = true := masked
  exact step_of_frame live (by simp [Signal.isDeliverable, masked]) control

/-- The next control is calm again. -/
theorem Solo.calm {tid : Tid} (kept : m.Undisturbed m') (live : m'.ending = none)
    (calm : Calm actor m'.control) : m.Solo tid actor m' :=
  .on kept live (.calm calm) calm.awake (by simp [calm.outside]) fun _ _ _ _ control =>
    absurd calm.outside (by simp [control, Control.inKernel])

theorem solo_deliver (calm : Calm actor m.control) (live : m.ending = none)
    (waits : m.host.signal.isDeliverable) : m.Solo tid actor m.step := by
  have delivers : m.step = m.deliver := by simp [step, live, waits]
  rw [delivers, deliver]
  obtain ⟨delivery, taken⟩ := m.host.signal.deliver_eq
  rw [taken]
  cases delivery with
  | killed => exact .quits (.same rfl rfl) rfl
  | dropped => exact .calm (.stirred rfl rfl) live calm
  | invoked callback =>
    exact .on (.stirred rfl rfl) live (.preempt _ (.restore _ calm)) rfl (fun _ => rfl) nofun

/-- The calls of the home thread. -/
theorem solo_call {rest : Control} (call : Call Target) (user : User actor rest)
    (live : m.ending = none) : m.Solo tid actor (m.call call rest) := by
  unfold Machine.call
  rcases m.host.examine_cases homeThread (call.map m.resolve) with
    ⟨f, fault⟩ | ⟨a, answered⟩ | ⟨r, passed, owner⟩
  · rw [fault]
    exact .calm (.same rfl rfl) live (calm_unwind (.faulted f) _)
  · rw [answered]
    exact .calm (.same rfl rfl) live (.user (.note _ _ user))
  · rw [passed]
    refine .on ⟨rfl, rfl, rfl, rfl, rfl, ?_, _, _, _, rfl⟩ live (.perform r _ _ user) rfl
      (fun _ => rfl) fun _ _ _ _ _ => rfl
    rcases owner with unowned | mine
    · exact .inr ⟨unowned, rfl⟩
    · exact .inl mine.symm

theorem solo_callElsewhere {rest : Control} (call : Call Target) (user : User actor rest)
    (live : m.ending = none) (home : m.host.owner ≠ some otherThread) :
    m.Solo tid actor (m.callElsewhere call rest) := by
  unfold Machine.callElsewhere
  rcases m.host.examine_cases otherThread (call.map m.resolve) with
    ⟨f, fault⟩ | ⟨a, answered⟩ | ⟨r, passed, owner⟩
  · have stuck : m.host.call m.objections primeControl otherThread (call.map m.resolve) =
        .error (.fault f) := by simp [Host.call, fault]
    rw [stuck]
    exact .calm (.same rfl rfl) live (calm_unwind (.faulted f) _)
  · have called : m.host.call m.objections primeControl otherThread (call.map m.resolve) =
        .ok ⟨.returns a, [], m.host⟩ := by
      simp [Host.call, answered]
    rw [called]
    exact .calm (.same rfl rfl) live (.user (.note _ _ user))
  · have unowned : m.host.owner = none := owner.resolve_right home
    cases called : m.host.call m.objections primeControl otherThread (call.map m.resolve) with
    | error halt =>
      cases halt with
      | fault f => exact .calm (.same rfl rfl) live (calm_unwind (.faulted f) _)
      | abort a => exact .quits (.same rfl rfl) rfl
    | ok report =>
      have foreign : report.host.owner = some otherThread := Host.call_owner passed called
      refine .claimed unowned ?_
      unfold proceed
      dsimp only
      split <;> exact foreign

theorem solo_fire {rest : Control} (user : User actor rest) (live : m.ending = none) :
    m.Solo tid actor (m.fire rest) := by
  unfold Machine.fire
  split
  · split
    · exact .on (.stirred rfl rfl) live (.preempt _ (.user (.note _ _ user))) rfl (fun _ => rfl)
        nofun
    · exact .calm (.same rfl rfl) live (.user (.note _ _ user))
  · exact .calm (.same rfl rfl) live (.user (.note _ _ user))

theorem solo_raiseElsewhere {rest : Control} (user : User actor rest) (live : m.ending = none) :
    m.Solo tid actor (m.raiseElsewhere rest) := by
  unfold Machine.raiseElsewhere
  dsimp only
  split
  · exact .quits (.same rfl rfl) rfl
  · next raised =>
    obtain ⟨_, _, rfl⟩ := Signal.raiseElsewhere_eq raised
    exact .calm (.stirred rfl rfl) live (.user (.restore _ (.note _ _ user)))

/-- One instruction of a program. -/
theorem solo_execute {rest : Control} (i : Instr) (user : User actor rest) (live : m.ending = none)
    (home : m.host.owner ≠ some otherThread) : m.Solo tid actor (m.execute rest i) := by
  cases i with
  | call c => exact solo_call c user live
  | foreign c => exact solo_callElsewhere c user live home
  | fire => exact solo_fire user live
  | raise => exact .calm (.stirred rfl rfl) live (.user (.note _ _ user))
  | raiseElsewhere => exact solo_raiseElsewhere user live
  | readTimer | readSignal | readConfig => exact .calm (.same rfl rfl) live (.user (.note _ _ user))
  | loop times body => exact .calm (.same rfl rfl) live (.user (.loop times body user))
  | whileAlive t body => exact .calm (.same rfl rfl) live (.user (.whileAlive _ _ body user))
  | masked body =>
    exact .calm (.stirred rfl rfl) live (.user (.run body (.restore _ (.note _ _ user))))
  | stop => exact .calm (.same rfl rfl) live (.user user.filter)
  | fail => exact .calm (.same rfl rfl) live (calm_unwind .failed _)
  | close =>
    exact .on (.stirred rfl rfl) live (.dispose _ _) rfl (fun _ => rfl) nofun

theorem solo_finish {generation base : Nat} {d : Dispatcher Control} (live : m.ending = none)
    (dispatcher : m.host.dispatcher = some d)
    (place : (generation = d.generation ∧ tid ≠ 0 ∧ d.shownTid = tid) ∨
      (generation ≠ d.generation ∧ tid = 0)) :
    m.Solo tid (.spawned generation base) (m.finishThread generation []) := by
  unfold finishThread
  rw [dispatcher]
  rcases place with ⟨own, spawned, rfl⟩ | ⟨older, main⟩
  · simp only [own, if_true]
    exact .on (.stirred rfl rfl) live (.returning _ spawned) rfl (fun _ => rfl)
      (by simp [guarded])
  · simp only [older, if_false]
    exact .on (.stirred rfl rfl) live (.adopted _ main (by simp)) rfl
      (fun _ => rfl) (by simp [guarded])

/-- A step from a calm control is the running thread's own. -/
theorem solo (calm : Calm actor m.control) (live : m.ending = none)
    (home : m.host.owner ≠ some otherThread)
    (place : ∀ generation base, actor = .spawned generation base →
      ∃ d, m.host.dispatcher = some d ∧
        ((generation = d.generation ∧ tid ≠ 0 ∧ d.shownTid = tid) ∨
          (generation ≠ d.generation ∧ tid = 0))) :
    m.Solo tid actor m.step := by
  cases waits : m.host.signal.isDeliverable with
  | true => exact solo_deliver calm live waits
  | false =>
    generalize control : m.control = c at calm
    cases calm with
    | user user =>
      cases user with
      | run program user =>
        rw [step_of_frame live waits control]
        cases program with
        | nil => exact .calm (.same rfl rfl) live (.user user)
        | cons i is => exact solo_execute i (.run is user) live home
      | loop times body user =>
        rw [step_of_frame live waits control]
        cases times with
        | zero => exact .calm (.same rfl rfl) live (.user user)
        | succ times => exact .calm (.same rfl rfl) live (.user (.run body (.loop times body user)))
      | whileAlive left other body user =>
        rw [step_of_frame live waits control]
        cases left with
        | zero => exact .calm (.same rfl rfl) live (.user user)
        | succ left =>
          simp only [work]
          split
          · exact .calm (.same rfl rfl) live (.user (.run body (.whileAlive left other body user)))
          · exact .calm (.same rfl rfl) live (.user user)
      | note did result user =>
        rw [step_of_frame live waits control]
        exact .calm (.same rfl rfl) live (.user user)
      | restore guard user =>
        rw [step_of_frame live waits control]
        exact .calm (.stirred rfl rfl) live (.user user)
      | returned own =>
        rw [step_of_frame live waits control]
        exact .calm (.same rfl rfl) live (.finish own)
      | close own =>
        rw [step_of_frame live waits control]
        exact .on (.stirred rfl rfl) live (.leave _ own) rfl (fun _ => rfl) nofun
      | quit own =>
        rw [step_of_frame live waits control]
        exact .quits (.same rfl rfl) rfl
    | restore guard calm =>
      rw [step_of_frame live waits control]
      exact .calm (.stirred rfl rfl) live calm
    | unmask calm =>
      rw [step_of_frame live waits control]
      exact .calm (.stirred rfl rfl) live calm
    | finish own =>
      obtain ⟨d, dispatcher, place⟩ := place _ _ own
      rw [step_of_frame live waits control, own]
      exact solo_finish live dispatcher place
    | failed | faulted f | closed rest =>
      rw [step_of_frame live waits control]
      exact .quits (.same rfl rfl) rfl

end Machine

end RoundRobin
