import RoundRobin.Proofs.Machine.Acts
import RoundRobin.Proofs.Scheduler.Refusals

/-!
# Refused calls

A call that the scheduler refuses is answered at once: its section is left again and the host is
what it was, with the published numbers, the timer and its count of restarts, the signal and the
mask. The calling thread keeps the processor and goes on behind the call.
-/

namespace RoundRobin

variable {κ : Type} {e : Error}

namespace Host

variable {h h' : Host κ} {d : Dispatcher κ} {objections : Objections}
  {prime : Nat → Tid → Stack → Option κ} {r : Request} {events : List Event}

theorem putScheduler_self (dispatcher : h.dispatcher = some d) :
    h.putScheduler d d.scheduler = h := by
  obtain ⟨owner, _, signal, generation, nextBase, unmapped⟩ := h
  obtain rfl : _ = some d := dispatcher
  rfl

/-- An operation is asked for and its answer followed up. If only refusals are passed on as such,
and the operation makes them without a change, the host refuses when the operation does. -/
theorem followed_refuses_iff {α : Type} {P : Prop} (dispatcher : h.dispatcher = some d)
    {asked : Except Halt (Except Error α × Scheduler κ)}
    {follow : Except Error α × Scheduler κ → Except Halt (Report κ)}
    (exact : ∀ s, asked = .ok (.error e, s) ↔ s = d.scheduler ∧ P)
    (refuses : ∀ reason s,
      follow (.error reason, s) = .ok ⟨.returns (.refused reason), [], h.putScheduler d s⟩)
    (accepts : ∀ a s, follow (.ok a, s) ≠ .ok ⟨.returns (.refused e), events, h'⟩) :
    asked >>= follow = .ok ⟨.returns (.refused e), events, h'⟩ ↔
      (events = [] ∧ h' = h) ∧ P := by
  rw [bind_eq_ok]
  constructor
  · rintro ⟨⟨answer, s⟩, answered, followed⟩
    cases answer with
    | ok a => exact absurd followed (accepts a s)
    | error reason =>
      rw [refuses] at followed
      obtain ⟨same, rfl, rfl⟩ := Report.mk.inj (Except.ok.inj followed)
      obtain rfl := Answer.refused.inj (Outcome.returns.inj same)
      obtain ⟨rfl, reason⟩ := (exact s).mp answered
      exact ⟨⟨rfl, putScheduler_self dispatcher⟩, reason⟩
  · rintro ⟨⟨rfl, rfl⟩, reason⟩
    exact ⟨(.error e, d.scheduler), (exact d.scheduler).mpr ⟨rfl, reason⟩,
      by rw [refuses, putScheduler_self dispatcher]⟩

theorem looked_refuses_iff {α : Type} {P : Prop} {f : α → Answer} {looked : Except Error α}
    (exact : looked = .error e ↔ P) (accepts : ∀ a, f a ≠ .refused e) :
    (.ok (h.answered f looked) : Except Halt (Report κ)) =
        .ok ⟨.returns (.refused e), events, h'⟩ ↔ (events = [] ∧ h' = h) ∧ P := by
  cases looked with
  | ok a => simp [answered, ← exact, accepts a]
  | error reason => simp [answered, ← exact, eq_comm, and_comm]

/-- A request is refused exactly for the scheduler's reasons, and then nothing has changed. -/
theorem perform_refuses_iff (dispatcher : h.dispatcher = some d)
    (main : 1 ≤ d.scheduler.threads.length) (other : ∀ config, r ≠ .install config) :
    h.perform objections prime r = .ok ⟨.returns (.refused e), events, h'⟩ ↔
      (events = [] ∧ h' = h) ∧
        d.scheduler.Refuses d.config.stackSize (h.mapping objections) r e := by
  cases r with
  | install config => exact absurd rfl (other config)
  | spawn entry =>
    simp only [perform, dispatcher, spawn]
    exact followed_refuses_iff dispatcher (fun s => Scheduler.spawn_refuses_iff)
      (fun reason s => rfl) fun a s => by simp
  | terminate tid =>
    simp only [perform, dispatcher, terminate]
    refine followed_refuses_iff dispatcher (fun s => Scheduler.terminate_refuses_iff main)
      (fun reason s => rfl) fun ending s => ?_
    cases ending with
    | removed stack => simp
    | ownEnd => simp [bind_eq_ok]
    | processEnd =>
      dsimp only
      split <;> simp [bind_eq_ok]
  | block tid =>
    simp only [perform, dispatcher]
    refine followed_refuses_iff dispatcher (fun s => Scheduler.block_refuses_iff main)
      (fun reason s => rfl) fun suspension s => ?_
    cases suspension <;> simp [suspended, suspend, bind_eq_ok]
  | sleep quanta =>
    simp only [perform, dispatcher]
    refine followed_refuses_iff dispatcher (fun s => Scheduler.sleep_refuses_iff)
      (fun reason s => rfl) fun suspension s => ?_
    cases suspension <;> simp [suspended, suspend, bind_eq_ok]
  | resume tid =>
    simp only [perform, dispatcher]
    exact followed_refuses_iff dispatcher (fun s => Scheduler.resume_refuses_iff main)
      (fun reason s => rfl) fun a s => by simp [answered]
  | quantaOf tid =>
    simp only [perform, dispatcher]
    exact looked_refuses_iff (Scheduler.quantaOf_eq_error_iff main) fun a => by simp
  | stateOf tid =>
    simp only [perform, dispatcher]
    exact looked_refuses_iff (Scheduler.stateOf_eq_error_iff main) fun a => by simp

theorem leave_enter (h : Host κ) : h.enter.2.leave h.enter.1 = h := rfl

theorem call_refuses_iff {caller : OsThread} {c : Call Tid} (seen : h.visible caller = some d)
    (main : 1 ≤ d.scheduler.threads.length) (asks : c.request = some r) :
    h.call objections prime caller c = .ok ⟨.returns (.refused e), events, h'⟩ ↔
      (events = [] ∧ h' = h) ∧
        d.scheduler.Refuses d.config.stackSize (h.mapping objections) r e := by
  have dispatcher : h.enter.2.dispatcher = some d := (of_visible seen).2
  have inside {report : List Event} {after : Host κ} :
      h.enter.2.perform objections prime r = .ok ⟨.returns (.refused e), report, after⟩ ↔ _ :=
    perform_refuses_iff dispatcher main (Call.request_ne_install asks)
  simp only [call, carryOut, examine_request seen asks, ok_bind, bind_eq_ok]
  constructor
  · rintro ⟨⟨outcome, report, after⟩, performed, left⟩
    cases outcome with
    | returns a =>
      simp only [pure_eq_ok, Except.ok.injEq, Report.mk.injEq, Outcome.returns.injEq] at left
      obtain ⟨rfl, rfl, rfl⟩ := left
      obtain ⟨⟨rfl, rfl⟩, reason⟩ := inside.mp performed
      exact ⟨⟨rfl, leave_enter h⟩, reason⟩
    | _ => simp at left
  · rintro ⟨⟨rfl, rfl⟩, reason⟩
    exact ⟨_, inside.mpr ⟨⟨rfl, rfl⟩, reason⟩, rfl⟩

end Host

namespace Machine

variable {m : Machine} {d : Dispatcher Control}

theorem step_refused (live : m.ending = none) (masked : m.masked)
    (dispatcher : m.host.dispatcher = some d) (main : 1 ≤ d.scheduler.threads.length)
    {r : Request} {guard : Guard} {did : Deed} {rest : Control}
    (control : m.control = .perform r guard (.program did) :: rest)
    (other : ∀ config, r ≠ .install config)
    (refused : d.scheduler.Refuses d.config.stackSize m.mapping r e) :
    m.step =
      { m with control := .restore guard :: .note did (.answer (.refused e)) :: rest } := by
  have performed : m.host.perform m.objections primeControl r =
      .ok ⟨.returns (.refused e), [], m.host⟩ :=
    (Host.perform_refuses_iff dispatcher main other).mpr ⟨⟨rfl, rfl⟩, refused⟩
  rw [step_of_masked live masked control]
  simp only [work, perform, performed, proceed]
  rfl

/-- Three steps are made for a refused call: the section is entered, the refusal found and the
section left. -/
theorem run_refused (live : m.ending = none) (still : m.host.signal.isDeliverable = false)
    (seen : m.host.visible homeThread = some d) (main : 1 ≤ d.scheduler.threads.length)
    {c : Call Target} {is : List Instr} {rest : Control}
    (control : m.control = .run (.call c :: is) :: rest) {r : Request}
    (asks : (c.map m.resolve).request = some r)
    (refused : d.scheduler.Refuses d.config.stackSize m.step.mapping r e) :
    m.run 3 = { m with control := .note c.deed (.answer (.refused e)) :: .run is :: rest } := by
  let inside (control : Control) : Machine := { m with host := m.host.enter.2, control }
  have entered : m.step = inside (.perform r ⟨m.masked⟩ (.program c.deed) :: .run is :: rest) :=
    step_request live still seen control asks
  rw [entered] at refused
  have found : (inside (.perform r ⟨m.masked⟩ (.program c.deed) :: .run is :: rest)).step =
      inside (.restore ⟨m.masked⟩ :: .note c.deed (.answer (.refused e)) :: .run is :: rest) :=
    step_refused (m := inside _) live rfl (Host.of_visible seen).2 main rfl
      (Call.request_ne_install asks) refused
  rw [run_succ, entered, run_succ, found, run_succ, step_of_masked (m := inside _) live rfl rfl]
  rfl

end Machine

/-- Refusals are exact and change nothing. In every state of a table with a main thread an operation
of the scheduler is refused for the listed reasons and no others; the state is then the same, and
what would have built the first context of a spawned thread, and could have halted, was not called.
Whatever the system objects to, a refused call leaves the host as it was, and the running thread
goes on behind it with all else in the machine untouched. -/
theorem refusals_exact_and_harmless (κ : Type) :
    (∀ s : Scheduler κ, 1 ≤ s.threads.length →
      ∀ (size : Nat) (map : Nat → Except OsError Nat) (e : Error) (s' : Scheduler κ),
        (∀ entry (prime : Tid → Stack → Except Halt (Option κ)),
          s.spawnWith entry size map prime = .ok (.error e, s') ↔
            s' = s ∧ s.Refuses size map (.spawn entry) e) ∧
        (∀ entry prime, s.spawn entry size map prime = .ok (.error e, s') ↔
          s' = s ∧ s.Refuses size map (.spawn entry) e) ∧
        (∀ tid, s.block tid = .ok (.error e, s') ↔ s' = s ∧ s.Refuses size map (.block tid) e) ∧
        (∀ tid, s.resume tid = .ok (.error e, s') ↔ s' = s ∧ s.Refuses size map (.resume tid) e) ∧
        (∀ tid, s.terminate tid = .ok (.error e, s') ↔
          s' = s ∧ s.Refuses size map (.terminate tid) e) ∧
        (∀ quanta, s.sleep quanta = .ok (.error e, s') ↔
          s' = s ∧ s.Refuses size map (.sleep quanta) e) ∧
        (∀ tid, s.quantaOf tid = .error e ↔ s.Refuses size map (.quantaOf tid) e) ∧
        (∀ tid, s.stateOf tid = .error e ↔ s.Refuses size map (.stateOf tid) e) ∧
        (∀ tid, s.thread tid = .error e ↔ (tid ≠ 0 ∧ s.Vacant tid) ∧ e = .invalidTid tid)) ∧
    (∀ (h : Host κ) (caller : OsThread) (d : Dispatcher κ), h.visible caller = some d →
      1 ≤ d.scheduler.threads.length → ∀ (c : Call Tid) (r : Request), c.request = some r →
      ∀ (objections : Objections) (prime : Nat → Tid → Stack → Option κ) (e : Error)
        (events : List Event) (h' : Host κ),
        h.call objections prime caller c = .ok ⟨.returns (.refused e), events, h'⟩ ↔
          (events = [] ∧ h' = h) ∧
            d.scheduler.Refuses d.config.stackSize (h.mapping objections) r e) ∧
    ∀ (m : Machine) (d : Dispatcher Control), m.ending = none →
      m.host.signal.isDeliverable = false → m.host.visible homeThread = some d →
      1 ≤ d.scheduler.threads.length → ∀ (c : Call Target) (is : List Instr) (rest : Control),
      m.control = .run (.call c :: is) :: rest → ∀ r, (c.map m.resolve).request = some r →
      ∀ e, d.scheduler.Refuses d.config.stackSize m.step.mapping r e →
        m.run 3 = { m with control := .note c.deed (.answer (.refused e)) :: .run is :: rest } := by
  refine ⟨fun s main size map e s' => ?_, fun h caller d seen main c r asks objections prime e
    events h' => Host.call_refuses_iff seen main asks, fun m d live still seen main c is rest
    control r asks e refused => m.run_refused live still seen main control asks refused⟩
  exact ⟨fun entry prime => Scheduler.spawnWith_refuses_iff,
    fun entry prime => Scheduler.spawn_refuses_iff, fun tid => Scheduler.block_refuses_iff main,
    fun tid => Scheduler.resume_refuses_iff main, fun tid => Scheduler.terminate_refuses_iff main,
    fun quanta => Scheduler.sleep_refuses_iff,
    fun tid => Scheduler.quantaOf_eq_error_iff main, fun tid => Scheduler.stateOf_eq_error_iff main,
    fun tid => Scheduler.thread_eq_error_iff main⟩

/-- The system has no memory left. The main thread of a table with one free slot spawns a thread in
its program and asks for sleep in a call, and a spawn of a thread that could not be started anyway
gets as far as the mapping. -/
theorem refusals_exact_and_harmless_main :
    ∃ (m : Machine) (d : Dispatcher Control),
      Machine.standalone 2 1000 none none [.call (.spawn (some 0))] []
          (fun _ _ _ _ => some .outOfMemory) = .ok (.ok m) ∧
        m.ending = none ∧ m.host.signal.isDeliverable = false ∧
        m.host.visible homeThread = some d ∧ 1 ≤ d.scheduler.threads.length ∧
        m.control = .run [.call (.spawn (some 0))] :: [.close] ∧
        ((Call.spawn (some 0)).map m.resolve).request = some (.spawn (some 0)) ∧
        d.scheduler.Refuses d.config.stackSize m.step.mapping (.spawn (some 0))
          (.stackAllocation .outOfMemory) ∧
        m.run 3 =
          { m with
            control :=
              [.note .spawned (.answer (.refused (.stackAllocation .outOfMemory))), .run [],
                .close] } ∧
        m.host.call m.objections primeControl homeThread (.sleep 3) =
          .ok ⟨.returns (.refused .invalidSleep), [], m.host⟩ ∧
        d.scheduler.spawnWith (some 0) 4096 (fun _ => .error .outOfMemory)
            (fun _ _ => .error (.abort .lostContext)) =
          .ok (.error (.stackAllocation .outOfMemory), d.scheduler) := by
  obtain ⟨scheduler, call, run⟩ := refusals_exact_and_harmless Control
  obtain ⟨m, d, made, live, still, seen, main, control, current, free, usual, nothing⟩ :
      ∃ (m : Machine) (d : Dispatcher Control),
        Machine.standalone 2 1000 none none [.call (.spawn (some 0))] []
            (fun _ _ _ _ => some .outOfMemory) = .ok (.ok m) ∧
          m.ending = none ∧ m.host.signal.isDeliverable = false ∧
          m.host.visible homeThread = some d ∧ 1 ≤ d.scheduler.threads.length ∧
          m.control = .run [.call (.spawn (some 0))] :: [.close] ∧ d.scheduler.current = 0 ∧
          ¬ d.scheduler.Full ∧ d.config.stackSize = 65536 ∧
          ∀ length, m.step.mapping length = .error .outOfMemory :=
    ⟨_, _, rfl, rfl, rfl, rfl, by decide, rfl, rfl, fun full => full 1 (by decide) (by decide) rfl,
      rfl, fun _ => rfl⟩
  have fits {size : Nat} (small : size ≤ 65536) : ¬ Stack.Oversized size := by
    simp only [Stack.Oversized, pageSize]
    omega
  have refused : d.scheduler.Refuses d.config.stackSize m.step.mapping (.spawn (some 0))
      (.stackAllocation .outOfMemory) :=
    .inr ⟨free, fits (Nat.le_of_eq usual), .outOfMemory, nothing _, rfl⟩
  refine ⟨m, d, made, live, still, seen, main, control, rfl, refused,
    run m d live still seen main _ _ _ control _ rfl _ refused,
    (call m.host homeThread d seen main _ (.sleep 3) rfl m.objections primeControl _ _ _).mpr
      ⟨⟨rfl, rfl⟩, .inl current, rfl⟩, ?_⟩
  exact ((scheduler d.scheduler main 4096 _ _ _).1 (some 0) _).mpr
    ⟨rfl, .inr ⟨free, fits (by decide), .outOfMemory, rfl, rfl⟩⟩

end RoundRobin
