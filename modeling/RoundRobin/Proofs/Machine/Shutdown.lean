import RoundRobin.Proofs.Machine.Acts
import RoundRobin.Proofs.Machine.Stages
import RoundRobin.Proofs.Scheduler.Careless

/-!
# The end of the process

Ending the main thread ends the process. If the main thread asks for it itself, everything is given
back on the spot. A spawned thread hands the process over: the main thread is switched to, past all
that stand in line and without a turn being counted, and gives everything back before anything
else. In both cases no program comes to do anything any more.
-/

namespace RoundRobin

section Dispatcher

variable {κ : Type} {h h' : Host κ} {d d' e : Dispatcher κ}

/-- What is left, as `e`, of the dispatcher `d` when everything it had was given back: no tick comes
any more, nobody stands in line, and no spawned thread has a stack. -/
structure Host.Cleared (h : Host κ) (d e : Dispatcher κ) : Prop where
  dispatcher : h.dispatcher = some e
  timer : e.timer.Off h.signal
  queue : e.scheduler.ready.toList = []
  parked : e.scheduler.parked = none
  blank : ∀ (i : Tid) (t : Thread κ), e.scheduler.threads[i]? = some t → i ≠ 0 → t.stack = none
  released : ∀ (i : Tid) (t : Thread κ) (stack : Stack), d.scheduler.threads[i]? = some t → i ≠ 0 →
    t.stack = some stack → stack ∈ h.unmapped
  total : e.scheduler.total = d.scheduler.total
  turns : ∀ t : Thread κ, d.scheduler.threads[0]? = some t →
    ∃ t', e.scheduler.threads[0]? = some t' ∧ t'.quanta = t.quanta

/-- The dispatcher `d'` that `d` becomes when the process is handed over to its main thread. Nobody
else is touched, and no turn is counted. -/
structure Dispatcher.HandsOver (d d' : Dispatcher κ) : Prop where
  current : d'.scheduler.current = 0
  queue : d'.scheduler.ready.toList = d.scheduler.ready.toList.erase 0
  total : d'.scheduler.total = d.scheduler.total
  shown : d'.shownTotal = d.scheduler.total
  slots : ∀ (i : Tid) (t : Thread κ), d.scheduler.threads[i]? = some t →
    ∃ t', d'.scheduler.threads[i]? = some t' ∧ t'.quanta = t.quanta ∧ t'.stack = t.stack ∧
      (i ≠ 0 → t'.state = t.state)

theorem Host.teardown_cleared (h : Host κ) (armed : d.timer.isArmed h.signal) :
    ∃ e, (h.teardown d).2.Cleared d e := by
  obtain ⟨timer, signal, torn, _, _, off⟩ := h.teardown_eq d
  refine ⟨{ d with scheduler := d.scheduler.releaseAll.2, timer }, ?_⟩
  rw [torn]
  constructor
  · rfl
  · exact off armed
  · rfl
  · rfl
  · intro i t slot spawned
    obtain ⟨u, before, rfl⟩ := Scheduler.releaseAll_slot_inv slot
    rw [if_neg spawned]
    rfl
  · intro i t stack slot spawned own
    obtain ⟨j, rfl⟩ := Nat.exists_eq_succ_of_ne_zero spawned
    have tail : d.scheduler.threads.tail[j]? = some t := by rw [List.getElem?_tail]; exact slot
    have listed : stack ∈ d.scheduler.releaseAll.1.mappings :=
      List.mem_append_right _ (List.mem_filterMap.mpr ⟨t, List.mem_of_getElem? tail, own⟩)
    exact List.mem_append_left _ (List.mem_reverse.mpr listed)
  · rfl
  · intro t slot
    exact ⟨t, Scheduler.releaseAll_slot slot, rfl⟩

/-- What was given back was there before the process was handed over. -/
theorem Dispatcher.HandsOver.cleared (handsOver : d.HandsOver d') (cleared : h.Cleared d' e) :
    h.Cleared d e where
  dispatcher := cleared.dispatcher
  timer := cleared.timer
  queue := cleared.queue
  parked := cleared.parked
  blank := cleared.blank
  released := by
    intro i t stack slot spawned own
    obtain ⟨t', slot', _, same, _⟩ := handsOver.slots i t slot
    exact cleared.released i t' stack slot' spawned (same.trans own)
  total := cleared.total.trans handsOver.total
  turns := by
    intro t slot
    obtain ⟨t', slot', same, _⟩ := handsOver.slots 0 t slot
    obtain ⟨u, last, turns⟩ := cleared.turns t' slot'
    exact ⟨u, last, turns.trans same⟩

end Dispatcher

namespace Machine

variable {A : Actor → Option Nat → Prop} {m : Machine} {d : Dispatcher Control} {guard : Guard}
  {caller : Caller} {rest : Control}

/-- The main thread gives everything back as soon as it is resumed. -/
theorem HandedOver.cleared (handed : HandedOver m d) (armed : d.timer.isArmed m.host.signal) :
    ∃ e, m.step.host.Cleared d e := by
  let emptied : Dispatcher Control := { d with scheduler := { d.scheduler with parked := none } }
  obtain ⟨e, cleared⟩ := ((m.host.put emptied).unmap d.scheduler.parked.toList).teardown_cleared
    (d := emptied) armed
  rw [handed.step_host]
  exact ⟨e, cleared.dispatcher, cleared.timer, cleared.queue, cleared.parked, cleared.blank,
    cleared.released, cleared.total, cleared.turns⟩

/-- What the hand-over makes of the table. -/
theorem handsOver_of_set {main : Thread Control} {s : Scheduler Control}
    (slot : d.scheduler.threads[0]? = some main)
    (threads : s.threads = d.scheduler.threads.set 0 { main with state := .running })
    (current : s.current = 0) (total : s.total = d.scheduler.total)
    (queue : s.ready.toList = d.scheduler.ready.toList.erase 0) (i : Tid) (back : Control) :
    d.HandsOver { d.publish s with scheduler := s.withContext i back } where
  current := current
  queue := queue
  total := total
  shown := total
  slots := by
    intro j t there
    have changed : (s.withContext i back).threads[j]? = some
        (let t := if j = 0 then { t with state := .running } else t
          if i = j then { t with context := some back } else t) := by
      rw [Scheduler.withContext_slot, threads,
        Scheduler.getElem?_set_map slot fun t => { t with state := .running }, there]
      rfl
    refine ⟨_, changed, ?_⟩
    by_cases first : j = 0
    · subst first
      by_cases here : i = 0 <;> simp [here]
    · by_cases here : i = j <;> simp [here, first]

/-- Whoever ends the main thread ends the process, or hands it over to the main thread, which then
stands in line, waiting to go on after a tick. -/
theorem Hosted.ends_process (hosted : Hosted A m d) (armed : d.timer.isArmed m.host.signal)
    (control : m.control = .perform (.terminate 0) guard caller :: rest) :
    (d.scheduler.current = 0 ∧ m.step.ending = some .exited ∧ ∃ e, m.step.host.Cleared d e) ∨
      (d.scheduler.current ≠ 0 ∧ ∃ d' main rest, HandedOver m.step d' ∧ d.HandsOver d' ∧
        d'.timer.isArmed m.step.host.signal ∧ d.scheduler.threads[0]? = some main ∧
        main.state = .ready ∧ main.context = some (.reap :: rest) ∧
        m.step.control = .reap :: rest) := by
  obtain ⟨t, actor, slot, among, tenant, shape⟩ := hosted.current_slot
  have asks : m.control.asks d.config.stackSize m.mapping = some (.terminate 0) := by
    rw [control]
    rfl
  have same : ∀ {op : Scheduler.Op}, m.control.asks d.config.stackSize m.mapping = some op →
      op = .terminate 0 := fun asked => Option.some.inj (asked.symm.trans asks)
  cases hosted.transition tenant shape with
  | own _ idle => simp [idle] at asks
  | quits calm => simp [calm.asks_eq] at asks
  | failed _ _ _ _ asked =>
    obtain ⟨op, asked, ⟨_, tries⟩ | large⟩ := asked
    · simp [decides, hosted.live, hosted.dispatcher, control, Request.op, Scheduler.terminate_main,
        Scheduler.Answer.callsForDecision] at tries
    · obtain rfl := same asked
      exact large.elim
  | dispatched timer period asked parked table => exact absurd (same asked) table.ne_terminate_main
  | reaped control' | installed control' | disposed _ _ control' => simp [control] at control'
  | exited _ main _ ending host =>
    obtain ⟨e, cleared⟩ := m.host.teardown_cleared
      (d := { d with scheduler := { d.scheduler with shutdown := true } }) armed
    rw [host]
    exact .inl ⟨main, ending, e, cleared.dispatcher, cleared.timer, cleared.queue, cleared.parked,
      cleared.blank, cleared.released, cleared.total, cleared.turns⟩
  | handedOver kernel spawned at_main stored threads current shutdown _ _ live host _ total queue =>
    obtain ⟨next, context⟩ := hosted.main_slot spawned at_main
    have handed := hosted.next_handedOver kernel spawned at_main stored current shutdown live host
    have main := hosted.coherent.slots 0 _ at_main
    refine .inr ⟨spawned, _, _, next, handed,
      handsOver_of_set at_main threads current total queue _ _, ?_, at_main, ?_, context,
      Option.some.inj (stored.symm.trans context)⟩
    · rw [host]
      exact armed
    · exact (main.main rfl).resolve_left fun running => spawned (main.running running).symm

/-- The main thread is suspended by ticks only. -/
theorem Hosted.suspends_main (hosted : Hosted A m d) (live : m.step.ending = none)
    {d' : Dispatcher Control} (dispatcher : m.step.host.dispatcher = some d')
    (main : d.scheduler.current = 0) (leaves : d'.scheduler.current ≠ 0) :
    ∃ guard rest, m.control = .preempt guard :: rest := by
  obtain ⟨t, actor, slot, among, tenant, shape⟩ := hosted.current_slot
  have same : ∀ {e : Dispatcher Control}, m.step.host.dispatcher = some e → d' = e := fun there =>
    Option.some.inj (dispatcher.symm.trans there)
  cases hosted.transition tenant shape with
  | own _ _ kept =>
    obtain rfl := same (kept.dispatcher.trans hosted.dispatcher)
    exact absurd main leaves
  | quits _ _ ended => simp [live] at ended
  | failed _ _ _ eq =>
    obtain rfl := same (by rw [eq]; exact hosted.dispatcher)
    exact absurd main leaves
  | dispatched _ _ asked _ table _ _ _ host =>
    obtain rfl := same (congrArg Host.dispatcher host)
    obtain rfl := table.ticks_of_leaves_main main leaves
    exact Control.preempt_of_asks asked
  | reaped _ _ eq =>
    obtain rfl := same (congrArg (fun m' : Machine => m'.host.dispatcher) eq)
    exact absurd main leaves
  | installed _ _ _ report _ _ _ host =>
    obtain ⟨timer, signal, made, _⟩ := report.host
    obtain rfl := same (congrArg Host.dispatcher (host.trans made))
    exact absurd (Scheduler.new_fields report.new).1 leaves
  | disposed _ _ _ _ _ _ host => simp [host] at dispatcher
  | exited _ _ _ ending => simp [live] at ending
  | handedOver _ spawned => exact absurd main spawned

theorem Begins.suspends_main {m₀ : Machine} (begins : Begins m₀) {j : Nat}
    {d₁ d₂ : Dispatcher Control} (live : (run (j + 1) m₀).ending = none)
    (home : (run (j + 1) m₀).host.owner ≠ some otherThread)
    (before : (run j m₀).host.dispatcher = some d₁)
    (after : (run (j + 1) m₀).host.dispatcher = some d₂) (main : d₁.scheduler.current = 0)
    (leaves : d₂.scheduler.current ≠ 0) :
    ∃ guard rest, (run j m₀).control = .preempt guard :: rest := by
  have live₁ : (run j m₀).ending = none := by
    rw [run_add] at live
    exact live_of_run live
  rw [run_step] at live home after
  have home₁ : (run j m₀).host.owner ≠ some otherThread := fun owner => home (step_owner owner)
  rcases (begins.armed j).of_dispatcher live₁ home₁ before with ⟨hosted, _⟩ | handed
  · exact hosted.suspends_main live after main leaves
  · simp [handed.step.1] at live

/-- A call to end the main thread, before the scheduler has heard of it. -/
theorem Begins.asks_for_end {m₀ : Machine} (begins : Begins m₀) (n : Nat)
    (reached : run n m₀ = m) (seen : m.host.visible homeThread = some d) {t : Target}
    (calls : m.act = some (.instr (.call (.terminate t)))) (main : m.resolve t = 0) :
    ∃ guard caller rest, m.step.control = .perform (.terminate 0) guard caller :: rest ∧
      Hosted (fun _ _ => True) m.step d ∧ d.timer.isArmed m.step.host.signal := by
  obtain ⟨owner, dispatcher⟩ := Host.of_visible seen
  obtain ⟨live, still, is, rest, control⟩ := act_instr calls
  have asks : ((Call.terminate t).map m.resolve).request = some (.terminate 0) := by
    simp [Call.map, Call.request, main]
  have entered := step_request live still seen control asks
  have stage := begins.armed (n + 1)
  rw [run_step, reached] at stage
  have control' : m.step.control = .perform (.terminate 0) ⟨m.masked⟩
      (.program (Call.terminate t).deed) :: .run is :: rest := by rw [entered]
  rcases stage.of_dispatcher (d := d) (by rw [entered]; exact live)
    (by rw [entered]; simp [owner, homeThread, otherThread]) (by rw [entered]; exact dispatcher)
    with ⟨hosted, armed⟩ | handed
  · exact ⟨_, _, _, control', hosted, armed⟩
  · obtain ⟨rest', reaps⟩ := handed.reaps
    simp [control'] at reaps

/-- A call to end the main thread is the last thing that any program does, and the process exits
with everything given back. The main thread does that on the spot. A spawned thread hands the
process over to the main thread, past all that stand in line: that one was suspended by a tick, the
only way it can be, and gives everything back before it goes on. -/
theorem ending_main_ends_process {m₀ m : Machine} (begins : Begins m₀) (n : Nat)
    (reached : run n m₀ = m) {d : Dispatcher Control} (seen : m.host.visible homeThread = some d)
    {t : Target} (calls : m.act = some (.instr (.call (.terminate t)))) (main : m.resolve t = 0) :
    (∀ k, 1 ≤ k → (run k m).act = none) ∧
    (∀ k, (run k m).ending = none ∨ (run k m).ending = some .exited) ∧
    (∀ k, (if d.scheduler.current = 0 then 2 else 3) ≤ k →
      (run k m).ending = some .exited ∧ ∃ e, (run k m).host.Cleared d e) ∧
    (d.scheduler.current ≠ 0 → ∃ d' main rest, (run 2 m).ending = none ∧
      (run 2 m).host.dispatcher = some d' ∧ d.HandsOver d' ∧
      d.scheduler.threads[0]? = some main ∧ main.state = .ready ∧
      main.context = some (.reap :: rest) ∧ (run 2 m).control = .reap :: rest) ∧
    ∀ j d₁ d₂, j < n → (run j m₀).host.dispatcher = some d₁ →
      (run (j + 1) m₀).host.dispatcher = some d₂ → d₁.scheduler.current = 0 →
      d₂.scheduler.current ≠ 0 → ∃ guard rest, (run j m₀).control = .preempt guard :: rest := by
  obtain ⟨guard, caller, rest, control, hosted, armed⟩ :=
    begins.asks_for_end n reached seen calls main
  have first : run 1 m = m.step := by rw [run_succ]; rfl
  have second : run 2 m = m.step.step := by rw [run_succ, run_succ]; rfl
  have third : run 3 m = m.step.step.step := by rw [run_step, second]
  have silent : (run 1 m).act = none := by simp [first, act, control]
  have ticked : ∀ j d₁ d₂, j < n → (run j m₀).host.dispatcher = some d₁ →
      (run (j + 1) m₀).host.dispatcher = some d₂ → d₁.scheduler.current = 0 →
      d₂.scheduler.current ≠ 0 → ∃ guard rest, (run j m₀).control = .preempt guard :: rest := by
    intro j d₁ d₂ before here there at_main leaves
    have since : run (n - (j + 1)) (run (j + 1) m₀) = m := by
      rw [← run_add, Nat.add_sub_cancel' before, reached]
    refine begins.suspends_main (live_of_run (since ▸ (act_cases calls).1)) ?_ here there at_main
      leaves
    intro foreign
    have owner := run_owner foreign (n - (j + 1))
    rw [since, (Host.of_visible seen).1] at owner
    simp [homeThread, otherThread] at owner
  rcases hosted.ends_process armed control with
    ⟨here, exits, e, cleared⟩ | ⟨spawned, d', t', next, handed, handsOver, armed', slot, ready,
      context, goesOn⟩
  · -- The main thread's own call: the second step is the last.
    rw [← second] at exits cleared
    refine ⟨?_, ending_of_run exits, ?_, fun spawned => absurd here spawned, ticked⟩
    · intro k later
      rcases Nat.lt_or_ge k 2 with less | more
      · obtain rfl : k = 1 := by omega
        exact silent
      · simp [run_stays exits more, act, exits]
    · intro k later
      rw [if_pos here] at later
      rw [run_stays exits later]
      exact ⟨exits, e, cleared⟩
  · -- A spawned thread's call: the third step is the main thread's, and the last.
    obtain ⟨e, cleared⟩ := handed.cleared armed'
    have exits := handed.step.1
    rw [← third] at exits cleared
    rw [← second] at handed goesOn
    refine ⟨?_, ending_of_run exits, ?_, ?_, ticked⟩
    · intro k later
      rcases Nat.lt_or_ge k 3 with less | more
      · obtain rfl | rfl : k = 1 ∨ k = 2 := by omega
        · exact silent
        · exact handed.silent
      · simp [run_stays exits more, act, exits]
    · intro k later
      rw [if_neg spawned] at later
      rw [run_stays exits later]
      exact ⟨exits, e, handsOver.cleared cleared⟩
    · intro _
      exact ⟨d', t', next, handed.live, handed.dispatcher, handsOver, slot, ready, context, goesOn⟩

/-- The main thread spawns two threads and is suspended by a tick. The first one ends the process
while the second one is next in line. -/
def abandonedMain : List Instr :=
  [.call (.spawn (some 0)), .call (.spawn (some 1)), .fire, .call .total]

def abandonedPrograms : List (List Instr) := [[.call (.terminate (.tid 0))], [.call .total]]

def abandoned : Machine :=
  match standalone 3 1000 none none abandonedMain abandonedPrograms with
  | .ok (.ok m) => m
  | _ => process [] []

/-- The second thread never runs, and the main thread does not come back to its program. -/
theorem ending_main_ends_process_abandoned :
    ∃ d d' e : Dispatcher Control, (run 16 abandoned).host.visible homeThread = some d ∧
      d.scheduler.current = 1 ∧ d.scheduler.ready.toList = [2, 0] ∧
      (run 18 abandoned).host.dispatcher = some d' ∧ d.HandsOver d' ∧
      d'.scheduler.ready.toList = [2] ∧ (∀ k, 17 ≤ k → (run k abandoned).act = none) ∧
      (run 19 abandoned).ending = some .exited ∧ (run 19 abandoned).host.Cleared d e := by
  have started : standalone 3 1000 none none abandonedMain abandonedPrograms =
      .ok (.ok abandoned) := rfl
  have begins : Begins abandoned := .hosted (by decide) (by decide) started
  obtain ⟨d, seen⟩ : ∃ d, (run 16 abandoned).host.visible homeThread = some d := ⟨_, rfl⟩
  have table : ((run 16 abandoned).host.visible homeThread).map
      (fun d => (d.scheduler.current, d.scheduler.ready.toList)) = some (1, [2, 0]) := by
    decide +kernel
  rw [seen, Option.map_some, Option.some.injEq, Prod.mk.injEq] at table
  have spawned : d.scheduler.current ≠ 0 := by simp [table.1]
  obtain ⟨silent, _, exits, hands, _⟩ :=
    ending_main_ends_process begins 16 rfl seen rfl rfl
  obtain ⟨d', _, _, _, dispatcher, handsOver, _⟩ := hands spawned
  obtain ⟨ended, e, cleared⟩ := exits 3 (by simp [spawned])
  rw [← run_add] at dispatcher ended cleared
  refine ⟨d, d', e, seen, table.1, table.2, dispatcher, handsOver, ?_, ?_, ended, cleared⟩
  · rw [handsOver.queue, table.2]
    rfl
  · intro k later
    have quiet := silent (k - 16) (by omega)
    rwa [← run_add, Nat.add_sub_cancel' (by omega)] at quiet

end Machine

end RoundRobin
