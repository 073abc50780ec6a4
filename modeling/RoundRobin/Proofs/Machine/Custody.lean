import RoundRobin.Proofs.Machine.Private
import RoundRobin.Proofs.Machine.StartingOver
import RoundRobin.Proofs.Scheduler.Careless

/-!
# Who keeps the stacks

A thread that is ended by another gives its stack back at once. One that ends itself still runs on
its stack while it is switched away from, so the stack is parked, and whoever runs next gives it
back before anything else. Hence nobody's own stack is ever given back, and whenever a program has
its say the stacks of the table are those of the live threads.
-/

namespace RoundRobin

theorem Scheduler.mem_owned {κ : Type} {s : Scheduler κ} {i : Tid} {t : Thread κ} {stack : Stack}
    (slot : s.threads[i]? = some t) (own : t.stack = some stack) : stack ∈ s.owned :=
  List.mem_append_right _ (List.mem_filterMap.mpr ⟨t, List.mem_of_getElem? slot, own⟩)

/-- No stack is parked, and those of the table are the stacks of the live spawned threads. -/
structure Dispatcher.InCustody {κ : Type} (d : Dispatcher κ) : Prop where
  parked : d.scheduler.parked = none
  held : ∀ (i : Tid) (t : Thread κ), d.scheduler.threads[i]? = some t →
    (t.stack.isSome ↔ i ≠ 0 ∧ t.state ≠ .unused)

section Host

variable {κ : Type} {h : Host κ} {d : Dispatcher κ} {stack : Stack}

/-- Whoever runs has no stack of the table if it is the main thread. -/
theorem Dispatcher.InCustody.stackless_iff (kept : d.InCustody)
    (runs : d.scheduler.state? d.scheduler.current = some .running) {t : Thread κ}
    (slot : d.scheduler.threads[d.scheduler.current]? = some t) :
    t.stack = none ↔ d.scheduler.current = 0 := by
  obtain ⟨_, same, running⟩ := Scheduler.state?_eq_some.mp runs
  cases slot.symm.trans same
  have held := kept.held _ t slot
  rw [running] at held
  rw [← Option.not_isSome_iff_eq_none, held]
  simp

/-- What is in the table has not been given back. -/
theorem Host.Tidy.mapped (tidy : h.Tidy) (dispatcher : h.dispatcher = some d)
    (mem : stack ∈ d.scheduler.owned) : stack.base ∉ h.unmapped.map Stack.base := by
  have nodup := tidy.nodup
  rw [Host.stock, dispatcher, List.map_append] at nodup
  intro given
  exact (List.nodup_append.mp nodup).2.2 _ (List.mem_map_of_mem mem) _ given rfl

theorem Host.caller_owned (dispatcher : h.dispatcher = some d) (own : h.callerStack = some stack) :
    ∃ t, d.scheduler.threads[d.scheduler.current]? = some t ∧ t.stack = some stack := by
  rw [Host.callerStack, dispatcher] at own
  exact Option.bind_eq_some_iff.mp own

/-- The stack that the caller runs on is not among those that go with its dispatcher. -/
theorem Host.Tidy.detached (tidy : h.Tidy) (dispatcher : h.dispatcher = some d) {t : Thread κ}
    (slot : d.scheduler.threads[d.scheduler.current]? = some t) (own : t.stack = some stack) :
    stack.base ∉
      ((d.scheduler.withStack d.scheduler.current none).releaseAll.1.mappings.reverse ++
        h.unmapped).map Stack.base := by
  let s := d.scheduler.withStack d.scheduler.current none
  have apart : ([stack] ++ s.owned).Perm d.scheduler.owned := by
    simpa [own] using Scheduler.withStack_owned slot none
  have nodup := tidy.nodup
  rw [Host.stock, dispatcher] at nodup
  have whole := ((apart.append_right h.unmapped).map Stack.base).nodup_iff.mpr nodup
  rw [List.append_assoc, List.singleton_append, List.map_cons, List.nodup_cons] at whole
  intro mem
  apply whole.1
  obtain ⟨other, gone, same⟩ := List.mem_map.mp mem
  rw [← same]
  refine List.mem_map_of_mem (List.mem_append.mpr ?_)
  rcases List.mem_append.mp gone with released | before
  · exact .inl (s.releaseAll_owned.subset (List.mem_append_left _ (List.mem_reverse.mp released)))
  · exact .inr before

/-- The main thread's stack is not for a teardown to give back. -/
theorem Host.teardown_main {main : Thread κ} (slot : d.scheduler.threads[0]? = some main)
    (own : main.stack = some stack) :
    ∃ e, (h.teardown d).2.dispatcher = some e ∧ stack ∈ e.scheduler.owned := by
  obtain ⟨timer, signal, torn, _⟩ := h.teardown_eq d
  rw [torn]
  exact ⟨_, rfl, Scheduler.mem_owned (Scheduler.releaseAll_slot slot) own⟩

end Host

namespace Machine

variable {A : Actor → Option Nat → Prop} {m m' : Machine} {d d' : Dispatcher Control}
  {stack : Stack}

/-- A step leaves the stack that the running thread is on where it is. -/
theorem Hosted.spares_own (hosted : Hosted A m d) (tidy : m.host.Tidy)
    (own : m.host.callerStack = some stack) :
    stack.base ∉ m.step.host.unmapped.map Stack.base := by
  obtain ⟨t, slot, own⟩ := Host.caller_owned hosted.dispatcher own
  have mem := Scheduler.mem_owned slot own
  have tidy' := hosted.grown.tidy tidy
  obtain ⟨_, actor, slot', _, tenant, shape⟩ := hosted.current_slot
  cases slot.symm.trans slot'
  cases hosted.transition tenant shape with
  | own _ _ kept | quits _ kept =>
    exact tidy'.mapped (kept.dispatcher.trans hosted.dispatcher) mem
  | failed f _ _ eq => exact tidy'.mapped (by rw [eq]; exact hosted.dispatcher) mem
  | @dispatched op back given freed s _ _ _ parked table _ _ _ host =>
    have whole := table.owned_perm hosted.coherent parked
    rcases List.mem_append.mp (whole.mem_iff.mpr (List.mem_append_right _ mem)) with gone | stays
    · -- What is given back was another thread's, and no two threads share a stack.
      obtain rfl := Option.mem_toList.mp gone
      obtain ⟨i, u, other, there, theirs⟩ := table.freed_other
      exact absurd rfl (tidy.apart hosted.dispatcher there slot theirs own other)
    · exact tidy'.mapped (by rw [host]) stays
  | reaped _ _ eq =>
    exact tidy'.mapped (congrArg (fun m' : Machine => m'.host.dispatcher) eq)
      (Scheduler.mem_owned (s := { d.scheduler with parked := none }) slot own)
  | installed _ _ there report _ _ _ host =>
    cases slot.symm.trans there
    obtain ⟨timer, signal, made, _⟩ := report.host
    have owned := Host.fresh_owned (by decide) (by decide) report.new t.stack
    refine tidy'.mapped (by rw [host, made]) ?_
    rw [owned, own]
    exact List.mem_singleton_self _
  | disposed _ _ _ there _ _ host =>
    cases slot.symm.trans there
    rw [host]
    exact tidy.detached hosted.dispatcher slot own
  | exited _ main _ _ host =>
    rw [main] at slot
    obtain ⟨e, there, mem⟩ := Host.teardown_main (h := m.host)
      (d := { d with scheduler := { d.scheduler with shutdown := true } }) slot own
    exact tidy'.mapped (by rw [host]; exact there) mem
  | handedOver _ _ at_main _ threads _ _ parked _ _ host =>
    refine tidy'.mapped (by rw [host]) ?_
    simpa [Scheduler.withContext_owned, owned_handedOver at_main threads parked] using mem

theorem HandedOver.spares_own (handed : HandedOver m d) (tidy : m.host.Tidy)
    (own : m.host.callerStack = some stack) :
    stack.base ∉ m.step.host.unmapped.map Stack.base := by
  obtain ⟨t, slot, own⟩ := Host.caller_owned handed.dispatcher own
  rw [handed.current] at slot
  obtain ⟨e, there, mem⟩ :=
    Host.teardown_main (d := { d with scheduler := { d.scheduler with parked := none } }) slot own
  exact (handed.grown.tidy tidy).mapped (by rw [handed.step_host]; exact there) mem

/-- No step gives back the stack that the thread which makes it runs on. -/
theorem Phase.spares_own (phase : m.Phase A) (home : m.host.owner ≠ some otherThread)
    (tidy : m.host.Tidy) (own : m.host.callerStack = some stack) :
    stack.base ∉ m.step.host.unmapped.map Stack.base := by
  cases dispatcher : m.host.dispatcher with
  | none => simp [Host.callerStack, dispatcher] at own
  | some d =>
    cases phase with
    | ended gone =>
      obtain ⟨e, ended⟩ := Option.isSome_iff_exists.mp gone
      obtain ⟨t, slot, own⟩ := Host.caller_owned dispatcher own
      rw [step_of_ended ended]
      exact tidy.mapped dispatcher (Scheduler.mem_owned slot own)
    | foreign owner => exact absurd owner home
    | bare bare => simp [bare.nobody] at dispatcher
    | hosted d hosted => exact hosted.spares_own tidy own
    | handedOver d handed => exact handed.spares_own tidy own
    | leaving _ nobody => simp [nobody] at dispatcher

/-- The main thread of a first dispatcher has no stack of the library's. -/
theorem Private.main_bare (own : Private m d) (hosted : Hosted A m d) {main : Thread Control}
    (slot : d.scheduler.threads[0]? = some main) : main.stack = none := by
  have live : main.state ≠ .unused := by
    rcases (hosted.coherent.slots 0 main slot).main rfl with running | ready
    · simp [running]
    · simp [ready]
  obtain ⟨actor, _, tenant⟩ := hosted.tenant slot live
  rw [own.first] at tenant
  generalize main.stack = stack at tenant
  cases tenant with
  | main => rfl
  | adopted _ before => exact absurd before (Nat.not_lt_zero _)
  | spawned _ other => exact absurd rfl other

theorem Private.inCustody (own : Private m d) (hosted : Hosted A m d)
    (awake : m.control.awaits = false) : d.InCustody where
  parked := hosted.unparked rfl awake
  held := by
    intro i t slot
    by_cases main : i = 0
    · subst main
      simp [own.main_bare hosted slot]
    · simp [(hosted.coherent.slots i t slot).stack (Nat.pos_of_ne_zero main), main]

/-- The stack of a thread that another one ends is given back then and there. -/
theorem Hosted.ends_other (hosted : Hosted A m d) {tid : Tid}
    (wants : m.wants = some (.terminate tid)) (spawned : tid ≠ 0)
    (other : tid ≠ d.scheduler.current) {t : Thread Control}
    (slot : d.scheduler.threads[tid]? = some t) (live : t.state ≠ .unused) :
    ∃ stack, t.stack = some stack ∧ m.step.step.host.unmapped = stack :: m.host.unmapped := by
  obtain ⟨inside, ⟨guard, caller, rest, control⟩, asked, unmapped⟩ := hosted.inside wants
  have held := (hosted.coherent.slots tid t slot).stack (Nat.pos_of_ne_zero spawned)
  obtain ⟨stack, own⟩ := Option.isSome_iff_exists.mp (held.mpr live)
  refine ⟨stack, own, ?_⟩
  rcases inside.asked_step asked (by simpa using spawned) with
    ⟨back, given, freed, s, timer, period, done⟩ | ⟨_, ⟨_, decides⟩ | large⟩
  · rcases done.table.ended_cases hosted.coherent spawned slot live with ⟨_, rfl⟩ | ⟨same, _⟩
    · rw [done.host, own, unmapped]
      rfl
    · exact absurd same other
  · simp [inside.decides_perform control, Request.yields, other] at decides
  · exact large.elim

/-- A stack that was parked is given back before any program has its say again. -/
theorem Private.parked_returns (own : Private m d) (hosted : Hosted A m d)
    (parked : d.scheduler.parked = some stack) (k : Nat) {a : Act}
    (acts : (Machine.run k m).act = some a) : stack ∈ (Machine.run k m).host.unmapped := by
  -- It stays parked until it is given back, and no program has its say while one is parked.
  have ran := own.run (I := fun k d => d.scheduler.parked = some stack ∨
    stack ∈ (Machine.run k m).host.unmapped) hosted (.inl parked) ?_ k
  · rcases ran with gone | ⟨d, hosted, _, waits | given⟩
    · simp [gone.silent] at acts
    · obtain ⟨_, _, _, _, _, shape⟩ := hosted.current_slot
      have awake := (Shape.calm_of_act shape acts).awake
      simp [hosted.unparked rfl awake] at waits
    · exact given
  · intro k d d' _ _ holds _ progress
    rw [run_step]
    cases progress with
    | own _ _ kept =>
      rw [kept.unmapped]
      exact holds
    | dispatched done =>
      rcases holds with waits | given
      · simp [done.parked] at waits
      · rw [done.host]
        exact .inr (List.mem_append_right _ given)
    | reaped _ unmapped =>
      right
      rw [unmapped]
      rcases holds with waits | given
      · simp [waits]
      · exact List.mem_append_right _ given

/-- Whoever asks for something is not over. -/
theorem Hosted.not_over (hosted : Hosted A m d) {op : Scheduler.Op}
    (asked : m.control.asks d.config.stackSize m.mapping = some op) : ¬ m.Over := by
  intro gone
  cases gone with
  | ended gone => simp [hosted.live] at gone
  | doomed _ _ doomed =>
    generalize m.control = c at doomed asked
    cases doomed <;> simp [Control.asks] at asked
  | handedOver d' handed =>
    obtain ⟨rest, control⟩ := handed.reaps
    simp [control, Control.asks] at asked
  | leaving _ nobody => simp [hosted.dispatcher] at nobody

/-- The stack of a thread that ends itself is parked, where none was before, and given back before
any program has its say again. Only a full counter of decisions comes in between. -/
theorem Private.ends_itself (own : Private m d) (hosted : Hosted A m d)
    (wants : m.wants = some (.terminate d.scheduler.current)) (spawned : d.scheduler.current ≠ 0) :
    ∃ stack, m.host.callerStack = some stack ∧ m.step.host.dispatcher = some d ∧
      d.scheduler.parked = none ∧
      ((wordMax ≤ d.scheduler.total ∧ ∀ k, (Machine.run k m.step).act = none) ∨
        ((∃ d', m.step.step.host.dispatcher = some d' ∧ d'.scheduler.parked = some stack) ∧
          m.step.step.host.unmapped = m.host.unmapped ∧
          ∀ k a, (Machine.run k m.step).act = some a →
            stack ∈ (Machine.run k m.step).host.unmapped)) := by
  obtain ⟨inside, ⟨guard, caller, rest, control⟩, asked, unmapped⟩ := hosted.inside wants
  have silent : m.step.act = none := act_eq_none_of_kernel (Control.asks_inKernel asked)
  obtain ⟨t, slot, running, _⟩ := hosted.peopled.current hosted.runs
  have live : t.state ≠ .unused := by simp [running]
  have held := (hosted.coherent.slots _ t slot).stack (Nat.pos_of_ne_zero spawned)
  obtain ⟨stack, mine⟩ := Option.isSome_iff_exists.mp (held.mpr live)
  refine ⟨stack, by simp [Host.callerStack, hosted.dispatcher, slot, mine], inside.dispatcher,
    inside.unparked control rfl, ?_⟩
  -- The step into the library leaves the dispatcher alone, so the thread is still the current one.
  obtain ⟨d', next, own', _⟩ := (own.step hosted).resolve_left (inside.not_over asked)
  obtain rfl := Option.some.inj (inside.dispatcher.symm.trans next.dispatcher)
  rcases inside.asked_step asked (by simpa using spawned) with
    ⟨back, given, freed, s, timer, period, done⟩ | ⟨⟨f, eq⟩, ⟨full, _⟩ | large⟩
  · right
    obtain ⟨hosted', own'⟩ := own'.dispatched inside done
    rcases done.table.ended_cases hosted.coherent spawned slot live with ⟨other, _⟩ | ⟨_, rfl, kept⟩
    · exact absurd rfl other
    · have parked : s.parked = some stack := kept.trans mine
      refine ⟨⟨_, hosted'.dispatcher, parked⟩, by rw [done.host, unmapped]; rfl, ?_⟩
      intro k a acts
      cases k with
      | zero => simp [Machine.run, silent] at acts
      | succ k =>
        rw [run_succ] at acts ⊢
        exact own'.parked_returns hosted' parked k acts
  · left
    have gone : m.step.step.Over := by
      rw [eq]
      exact .doomed inside.live own'.deadly (doomed_unwind rfl _)
    refine ⟨full, fun k => ?_⟩
    cases k with
    | zero => exact silent
    | succ k =>
      rw [run_succ]
      exact (gone.run k).silent
  · exact large.elim

/-- Without a dispatcher no stack is given back. -/
theorem Leaving.keeps_unmapped (leaving : Leaving m.control) (live : m.ending = none)
    (nobody : m.host.dispatcher = none) (k : Nat) :
    (run k m).host.unmapped = m.host.unmapped := by
  induction k generalizing m with
  | zero => rfl
  | succ k ih =>
    rw [run_succ]
    obtain ⟨kept, gone | ⟨live, leaving⟩⟩ := leaving.step live nobody
    · obtain ⟨e, ended⟩ := Option.isSome_iff_exists.mp gone
      rw [run_of_ended ended, kept.unmapped]
    · rw [ih leaving live (kept.dispatcher.trans nobody), kept.unmapped]

/-- Beside the stack that the caller runs on all go with the dispatcher. -/
theorem Private.detached_perm (own : Private m d) (hosted : Hosted A m d) {t : Thread Control}
    (slot : d.scheduler.threads[d.scheduler.current]? = some t) :
    (t.stack.toList ++
      (d.scheduler.withStack d.scheduler.current none).releaseAll.1.mappings.reverse).Perm
        d.scheduler.owned := by
  obtain ⟨main, at_main⟩ :=
    Scheduler.Coherent.slot_of_lt (Nat.zero_lt_of_lt hosted.coherent.current_lt)
  -- The teardown passes over the main thread's slot, which loses nothing: it holds no stack.
  let s := d.scheduler.withStack d.scheduler.current none
  have there : s.threads[0]? = some (if d.scheduler.current = 0 then { main with stack := none }
      else main) := by
    rw [Scheduler.withStack_slot, at_main]
    rfl
  have bare : (if d.scheduler.current = 0 then { main with stack := none } else main).stack =
      none := by
    split
    · rfl
    · exact own.main_bare hosted at_main
  have all : s.releaseAll.1.mappings.reverse.Perm s.owned :=
    (List.reverse_perm _).trans (Scheduler.releaseAll_mappings there bare)
  exact (all.append_left _).trans (Scheduler.withStack_owned slot none)

/-- With the dispatcher all stacks go, except the one that the caller runs on if it is a spawned
thread; that one is warned about, and the others are counted. -/
theorem Private.disposes (own : Private m d) (hosted : Hosted A m d) {guard : Guard}
    {rest : Control} (control : m.control = .dispose guard :: rest) :
    ∃ gone, (m.host.callerStack.toList ++ gone).Perm d.scheduler.owned ∧
      (m.host.callerStack = none ↔ d.scheduler.current = 0) ∧ m.step.host.dispatcher = none ∧
      m.step.trace = .event (.shutDown gone.length) ::
        ((if d.scheduler.current = 0 then [] else [.event (.leaking d.scheduler.current)]) ++
          m.trace) ∧
      ∀ k, (Machine.run k m.step).host.unmapped = gone ++ m.host.unmapped := by
  have kept := own.inCustody hosted (by rw [control]; rfl)
  obtain ⟨t, actor, slot, _, _, shape⟩ := hosted.current_slot
  have mine : m.host.callerStack = t.stack := by simp [Host.callerStack, hosted.dispatcher, slot]
  have alone := kept.stackless_iff hosted.runs slot
  obtain ⟨signal, disposed, _⟩ := Host.dispose_eq (h := m.host) slot false
  have stepped := hosted.step_eq control (by rw [control]; rfl)
  simp only [work, Machine.dispose, hosted.dispatcher, disposed, proceed] at stepped
  rw [mine]
  refine ⟨_, own.detached_perm hosted slot, alone, by rw [stepped]; rfl, ?_, ?_⟩
  · have parked : (d.scheduler.withStack d.scheduler.current none).parked = none := kept.parked
    have count : (d.scheduler.withStack d.scheduler.current none).releaseAll.1.mappings =
        (d.scheduler.withStack d.scheduler.current none).releaseAll.1.released := by
      simp [Scheduler.Teardown.mappings, Scheduler.releaseAll, parked]
    rw [stepped, List.length_reverse, count]
    simp only [log, record, Host.farewell]
    by_cases first : d.scheduler.current = 0
    · simp [alone.mpr first, first]
    · have owns : t.stack.isSome := by
        rw [Option.isSome_iff_ne_none]
        exact fun none => first (alone.mp none)
      simp [owns, first, hosted.shownTid]
  · intro k
    have leaving : Leaving m.step.control := by
      rw [stepped]
      rw [control] at shape
      exact Shape.leaving shape
    rw [leaving.keeps_unmapped (by rw [stepped]; exact hosted.live) (by rw [stepped]; rfl), stepped]
    rfl

theorem Over.not_disposing (gone : m.Over) (live : m.ending = none) {guard : Guard} {rest : Control}
    (control : m.control = .dispose guard :: rest) : False := by
  cases gone with
  | ended gone => simp [live] at gone
  | doomed _ _ doomed =>
    rw [control] at doomed
    cases doomed
  | handedOver d handed =>
    obtain ⟨_, reaps⟩ := handed.reaps
    simp [control] at reaps
  | leaving _ _ leaving =>
    rw [control] at leaving
    cases leaving

theorem step_close (acts : m.act = some (.instr .close)) :
    m.step.ending = none ∧ ∃ guard rest, m.step.control = .dispose guard :: rest := by
  obtain ⟨live, still, is, rest, control⟩ := act_instr acts
  rw [step_of_frame live still control]
  exact ⟨live, _, _, rfl⟩

/-- What a process does with the stacks of its table, from the state that it is in. -/
structure Custody (m : Machine) : Prop where
  /-- The next step does not give back the stack that it is made on. -/
  spared : ∀ stack, m.host.callerStack = some stack →
    stack.base ∉ m.step.host.unmapped.map Stack.base
  /-- No stack has been given back twice, or while it is still in the table. -/
  once : (m.host.stock.map Stack.base).Nodup
  /-- A program that has its say runs on the stack of the current thread, and the stacks of the
  table are those of the live threads. -/
  acting : ∀ a, m.act = some a → ∃ d, m.host.visible homeThread = some d ∧
    m.control.actor = holder m.host.callerStack ∧ d.InCustody
  /-- The stack of a thread that another one ends is given back with that. -/
  endsOther : ∀ d tid t, m.host.visible homeThread = some d → m.wants = some (.terminate tid) →
    tid ≠ 0 → tid ≠ d.scheduler.current → d.scheduler.threads[tid]? = some t → t.state ≠ .unused →
    ∃ stack, t.stack = some stack ∧ m.step.step.host.unmapped = stack :: m.host.unmapped
  /-- The stack of a thread that ends itself is parked while no other is, and given back before any
  program has its say again. At the end of the counter no program ever has. -/
  endsItself : ∀ d, m.host.visible homeThread = some d →
    m.wants = some (.terminate d.scheduler.current) → d.scheduler.current ≠ 0 →
    ∃ stack, m.host.callerStack = some stack ∧ m.step.host.dispatcher = some d ∧
      d.scheduler.parked = none ∧
      ((wordMax ≤ d.scheduler.total ∧ ∀ k, (run k m.step).act = none) ∨
        ((∃ d', m.step.step.host.dispatcher = some d' ∧ d'.scheduler.parked = some stack) ∧
          m.step.step.host.unmapped = m.host.unmapped ∧
          ∀ k a, (run k m.step).act = some a → stack ∈ (run k m.step).host.unmapped))
  /-- A thread whose program is over ends itself. -/
  returns : m.act = some .ending → ∃ d, m.host.visible homeThread = some d ∧
    m.wants = some (.terminate d.scheduler.current) ∧ d.scheduler.current ≠ 0
  /-- A program that ends the dispatcher is about to. -/
  closes : m.act = some (.instr .close) →
    m.step.ending = none ∧ ∃ guard rest, m.step.control = .dispose guard :: rest
  /-- With the dispatcher all stacks go for good, except the one that a spawned caller runs on. They
  are counted, and that one is warned about. -/
  disposes : ∀ guard rest, m.ending = none → m.control = .dispose guard :: rest →
    ∃ d gone, m.host.visible homeThread = some d ∧ d.InCustody ∧
      (m.host.callerStack.toList ++ gone).Perm d.scheduler.owned ∧
      (m.host.callerStack = none ↔ d.scheduler.current = 0) ∧ m.step.host.dispatcher = none ∧
      m.step.trace = .event (.shutDown gone.length) ::
        ((if d.scheduler.current = 0 then [] else [.event (.leaking d.scheduler.current)]) ++
          m.trace) ∧
      ∀ k, (run k m.step).host.unmapped = gone ++ m.host.unmapped

theorem Over.custody (gone : m.Over) (phase : m.Phase A) (home : m.host.owner ≠ some otherThread)
    (tidy : m.host.Tidy) : m.Custody where
  spared := fun _ => phase.spares_own home tidy
  once := tidy.nodup
  acting := by simp [gone.silent]
  endsOther := by simp [wants_of_silent gone.silent]
  endsItself := by simp [wants_of_silent gone.silent]
  returns := by simp [gone.silent]
  closes := step_close
  disposes := fun _ _ live control => (gone.not_disposing live control).elim

theorem Private.custody (own : Private m d) (hosted : Hosted A m d) (tidy : m.host.Tidy) :
    m.Custody where
  spared := fun _ => hosted.spares_own tidy
  once := tidy.nodup
  acting := by
    intro a acts
    obtain ⟨t, slot, _, tenant⟩ := hosted.acts acts
    obtain ⟨_, _, _, _, _, shape⟩ := hosted.current_slot
    rw [own.first] at tenant
    refine ⟨d, hosted.visible, ?_, own.inCustody hosted (Shape.calm_of_act shape acts).awake⟩
    rw [tenant.holder_eq]
    simp [Host.callerStack, hosted.dispatcher, slot]
  endsOther := by
    intro d' tid t seen wants spawned other slot live
    obtain rfl := Option.some.inj (hosted.visible.symm.trans seen)
    exact hosted.ends_other wants spawned other slot live
  endsItself := by
    intro d' seen wants spawned
    obtain rfl := Option.some.inj (hosted.visible.symm.trans seen)
    exact own.ends_itself hosted wants spawned
  returns := by
    intro acts
    obtain ⟨t, slot, _, tenant⟩ := hosted.acts acts
    obtain ⟨generation, base, rest, control⟩ := act_ending acts
    rw [control, own.first] at tenant
    refine ⟨d, hosted.visible, by simp [wants, acts, hosted.currentTid], ?_⟩
    rcases tenant.place with ⟨_, spawned⟩ | ⟨older, _⟩
    · exact spawned
    · exact absurd older (Nat.not_lt_zero _)
  closes := step_close
  disposes := by
    intro guard rest live control
    obtain ⟨gone, perm, alone, nobody, trace, frozen⟩ := own.disposes hosted control
    exact ⟨d, gone, hosted.visible, own.inCustody hosted (by rw [control]; rfl), perm, alone,
      nobody, trace, frozen⟩

/-- A process with a dispatcher and a manual timer of its own, whose programs do not start over,
takes care of the stacks in every state that it gets to. -/
theorem stacks_in_custody {capacity micros : Nat} {stackSize : Option Nat} {main : List Instr}
    {programs : List (List Instr)} {system : System} {m : Machine} (one : 1 ≤ capacity)
    (fits : capacity < 2 ^ 60)
    (started : standalone capacity micros stackSize none main programs system = .ok (.ok m))
    (here : areLocal main) (code : ∀ program ∈ programs, areLocal program) (n : Nat) :
    (run n m).Custody := by
  obtain ⟨config, fresh, event, _, new, rfl⟩ := standalone_eq one fits started
  have hosted := opened_hosted (A := fun _ _ => True) one fits new config event main programs
    system trivial (admits_all ..)
  have phase : (opened fresh config event main programs system).Phase fun _ _ => True :=
    .hosted _ hosted
  have home : (run n (opened fresh config event main programs system)).host.owner ≠
      some otherThread := by
    simp [run_owner (m := opened fresh config event main programs system) rfl n, homeThread,
      otherThread]
  have tidy := (phase.tidy (opened_tidy one fits new config event main programs system) n home).2
  have ran := (opened_private new config event here code).run (I := fun _ _ => True) hosted trivial
    (fun _ _ _ _ _ _ _ _ => trivial) n
  rcases ran with gone | ⟨d, hosted, own, _⟩
  · exact gone.custody (phase.run n) home tidy
  · exact own.custody hosted tidy

/-- The main thread spawns three threads, ends the second one and lets the others run. -/
def heirsMain : List Instr :=
  [.call (.spawn (some 0)), .call (.spawn (some 0)), .call (.spawn (some 1)),
    .call (.terminate (.tid 2)), .fire]

def heirsPrograms : List (List Instr) := [[], [.call (.spawn (some 0)), .close]]

def heirs : Machine :=
  match standalone 4 1000 none none heirsMain heirsPrograms with
  | .ok (.ok m) => m
  | _ => process [] []

/-- The second thread's stack is given back when it is ended, and that of the first one by the
third. Its own stack is the one that is left when it ends the dispatcher. -/
theorem stacks_in_custody_heirs :
    (∃ d t stack, (run 12 heirs).host.visible homeThread = some d ∧
        d.scheduler.threads[2]? = some t ∧ t.stack = some stack ∧
        (run 14 heirs).host.unmapped = [stack]) ∧
      (∃ stack, (run 26 heirs).host.callerStack = some stack ∧
        (∃ d, (run 28 heirs).host.dispatcher = some d ∧ d.scheduler.parked = some stack) ∧
        stack ∈ (run 34 heirs).host.unmapped) ∧
      ∃ d own gone, (run 39 heirs).host.visible homeThread = some d ∧
        (run 39 heirs).host.callerStack = some own ∧ [own, gone].Perm d.scheduler.owned ∧
        (run 40 heirs).trace.head? = some (.event (.shutDown 1)) ∧
        ∀ k, (run k (run 40 heirs)).host.unmapped = gone :: (run 39 heirs).host.unmapped := by
  have started : standalone 4 1000 none none heirsMain heirsPrograms = .ok (.ok heirs) := rfl
  have code : ∀ program ∈ heirsPrograms, areLocal program := by decide
  refine ⟨?_, ?_, ?_⟩
  · have kept := stacks_in_custody (by decide) (by decide) started (by decide) code 12
    obtain ⟨d, seen, _⟩ := kept.acting (.instr (.call (.terminate (.tid 2)))) rfl
    have ready : ((run 12 heirs).host.visible homeThread).bind (·.scheduler.state? 2) =
        some .ready := by decide +kernel
    have main : ((run 12 heirs).host.visible homeThread).map (·.scheduler.current) = some 0 := by
      decide +kernel
    rw [seen] at ready main
    obtain ⟨t, slot, ready⟩ := Scheduler.state?_eq_some.mp ready
    have first : d.scheduler.current = 0 := Option.some.inj main
    obtain ⟨stack, own, given⟩ := kept.endsOther d 2 t seen rfl (by decide) (by simp [first]) slot
      (by simp [ready])
    exact ⟨d, t, stack, seen, slot, own, given⟩
  · have kept := stacks_in_custody (by decide) (by decide) started (by decide) code 26
    obtain ⟨d, seen, wants, spawned⟩ := kept.returns rfl
    obtain ⟨stack, own, _, _, ⟨full, _⟩ | ⟨parks, _, back⟩⟩ := kept.endsItself d seen wants spawned
    · have few : ((run 26 heirs).host.visible homeThread).map (·.scheduler.total) = some 2 := by
        decide +kernel
      rw [seen] at few
      have few : d.scheduler.total = 2 := Option.some.inj few
      simp [few, wordMax] at full
    · exact ⟨stack, own, parks, back 7 (.instr (.call (.spawn (some 0)))) rfl⟩
  · have kept := stacks_in_custody (by decide) (by decide) started (by decide) code 39
    obtain ⟨d, gone, seen, _, perm, _, _, trace, frozen⟩ := kept.disposes _ _ rfl rfl
    have told : (run 40 heirs).trace.head? = some (.event (.shutDown 1)) := rfl
    have counted : (run 40 heirs).trace.head? = some (.event (.shutDown gone.length)) :=
      congrArg List.head? trace
    have one : gone.length = 1 := by
      simpa using counted.symm.trans told
    obtain ⟨other, rfl⟩ := List.length_eq_one_iff.mp one
    have inside : (run 39 heirs).host.callerStack.isSome := by decide +kernel
    obtain ⟨own, mine⟩ := Option.isSome_iff_exists.mp inside
    rw [mine] at perm
    exact ⟨d, own, other, seen, mine, perm, told, frozen⟩

end Machine

end RoundRobin
