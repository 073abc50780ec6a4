import RoundRobin.Proofs.Scheduler.Residents

/-!
# Decisions carried out

Whoever carries out a decision for another thread stores what the outgoing thread is to go on with,
and takes up what was stored for the incoming one. A `Dispatch` is a step of a disciplined run with
its switch carried out, but with the parked stack still there: the incoming thread takes that later.
All residents live through it, except the one that ends, and no stack gets lost.
-/

namespace RoundRobin.Scheduler

variable {κ : Type}

/-- A switch carried out, after which the outgoing thread is to go on with `back`. -/
inductive Exchange (s : Scheduler κ) (switch : Switch) (back : κ) : Scheduler κ → κ → Prop where
  | idle (same : switch.isIdle) : Exchange s switch back s back
  | busy {u : Thread κ} {next : κ} (apart : ¬ switch.isIdle)
      (target : s.threads[switch.target]? = some u) (stored : u.context = some next) :
      Exchange s switch back (s.withContext switch.source back) next

/-- An operation, or a tick, after which the running thread is to go on with `back`, and the thread
that runs then goes on with `next`. The stack `given` is new, and `freed` is no longer needed. -/
inductive Dispatch (prime : Tid → Stack → Option κ) (W : κ → Prop) (s : Scheduler κ) :
    Op → κ → Option Stack → Option Stack → Scheduler κ → κ → Prop where
  | quiet {op : Op} {answer : Answer} {s' : Scheduler κ} (back : κ) (ordinary : op.isOrdinary)
      (asked : op ≠ .schedule)
      (applied : Bench.apply ⟨s, none⟩ prime op = .ok (answer, ⟨s', none⟩))
      (effect : s.Effect op answer s') (quiet : answer.callsForDecision = false)
      (goesOn : answer ≠ .ended .processEnd) :
      Dispatch prime W s op back (s'.granted answer) answer.freed s' back
  | ticked {switch : Switch} {s' s'' : Scheduler κ} {back next : κ}
      (decided : s.schedule = .ok (switch, s')) (dec : s.Decision switch s')
      (parked : s'.parked = s.parked) (waits : W back)
      (exchange : s'.Exchange switch back s'' next) :
      Dispatch prime W s .schedule back none none s'' next
  | yielded {op : Op} {answer : Answer} {switch : Switch} {mid s' s'' : Scheduler κ} {back next : κ}
      (ordinary : op.isOrdinary)
      (applied : Bench.apply ⟨s, none⟩ prime op = .ok (answer, ⟨mid, none⟩))
      (effect : s.Effect op answer mid) (due : answer.callsForDecision = true)
      (decided : mid.schedule = .ok (switch, s')) (dec : mid.Decision switch s')
      (parked : s'.parked = mid.parked) (waits : W back)
      (exchange : s'.Exchange switch back s'' next) :
      Dispatch prime W s op back none none s'' next

variable {s s' s'' : Scheduler κ} {switch : Switch} {op : Op} {answer : Answer} {back next : κ}
  {stack : Stack} {given freed : Option Stack} {prime : Tid → Stack → Option κ}
  {P P' : Tid → Resident κ → Prop} {W : κ → Prop}

theorem Effect.shutdown (effect : s.Effect op answer s') (goesOn : answer ≠ .ended .processEnd) :
    s'.shutdown = s.shutdown := by
  cases effect with
  | refused | blockedAgain | resumedIdle => rfl
  | endedMain => exact absurd rfl goesOn
  | decided dec => exact dec.shutdown
  | admitted _ _ _ _ _ _ up | blockedAsleep _ _ _ up | blockedReady _ _ _ up
  | blockedRunning _ _ _ up | resumedBlocked _ _ up | resumedAsleep _ _ up | slept _ _ _ _ up
  | endedOther _ _ _ _ up | endedSelf _ _ _ up => exact up.shutdown

theorem Coherent.withContext (coh : s.Coherent) (i : Tid) (context : κ) :
    (s.withContext i context).Coherent := by
  have length : (s.withContext i context).threads.length = s.threads.length := by
    simp [Scheduler.withContext]
  refine ⟨by rw [length]; exact coh.current_lt, by rw [length]; exact coh.ring,
    by rw [length]; exact coh.queued_lt, coh.nodup, ?_⟩
  intro j u slot
  rw [withContext_slot] at slot
  obtain ⟨t, before, rfl⟩ := Option.map_eq_some_iff.mp slot
  have old := coh.slots j t before
  split
  · exact
      { numbered := old.numbered
        running := old.running
        queued := old.queued
        deadline := old.deadline
        blank := old.blank
        stack := old.stack
        entry := old.entry
        main := old.main }
  · exact old

theorem withContext_state? (s : Scheduler κ) (i : Tid) (context : κ) (j : Tid) :
    (s.withContext i context).state? j = s.state? j := by
  rw [state?, withContext_slot, Option.map_map, state?]
  cases s.threads[j]? with
  | none => rfl
  | some t => by_cases here : i = j <;> simp [here]

namespace Exchange

variable (exchange : s.Exchange switch back s' next)
include exchange

theorem current : s'.current = s.current := by cases exchange <;> rfl

theorem total : s'.total = s.total := by cases exchange <;> rfl

theorem shutdown : s'.shutdown = s.shutdown := by cases exchange <;> rfl

theorem parked : s'.parked = s.parked := by cases exchange <;> rfl

theorem state? (i : Tid) : s'.state? i = s.state? i := by
  cases exchange with
  | idle => rfl
  | busy => exact withContext_state? ..

theorem owned_eq : s'.owned = s.owned := by
  cases exchange with
  | idle => rfl
  | busy => exact withContext_owned ..

theorem outline_eq : s'.outline = s.outline := by
  cases exchange with
  | idle => rfl
  | busy => exact withContext_outline ..

theorem coherent (coh : s.Coherent) : s'.Coherent := by
  cases exchange with
  | idle => exact coh
  | busy => exact coh.withContext ..

end Exchange

/-- A decision that is carried out finds the incoming thread where it was left. -/
theorem Decision.exchange (dec : s.Decision switch s') (coh : s.Coherent) {running : κ}
    (peopled : s.Peopled P W running) (back : κ) :
    ∃ s'' next, s'.Exchange switch back s'' next ∧ (switch.isIdle ∧ s'' = s' ∧ next = back ∨
      (¬ switch.isIdle ∧ s'.saveContext switch.source back = .ok s'' ∧
        s''.contextOf switch.target = .ok (some next))) := by
  by_cases same : switch.isIdle
  · exact ⟨s', back, .idle same, .inl ⟨same, rfl, rfl⟩⟩
  have apart : switch.source ≠ switch.target := fun h => same (beq_iff_eq.mpr h)
  obtain ⟨t, slot, inLine⟩ := dec.target_slot coh
  have live : t.state ≠ .unused := by
    rintro unused
    simp [unused] at inLine
  obtain ⟨u, slot', running⟩ := state?_eq_some.mp (dec.target_running coh)
  obtain ⟨r, found, _⟩ := peopled _ t slot live
  rw [resident_waiting slot live (by rw [← dec.source]; exact Ne.symm apart)] at found
  obtain ⟨next, stored, _⟩ := Option.map_eq_some_iff.mp found
  rw [← (dec.same_slot coh slot slot').context] at stored
  have inside : switch.source < s'.threads.length := by
    rw [dec.length_eq, dec.source]
    exact coh.current_lt
  refine ⟨_, next, .busy same slot' stored, .inr ⟨same, saveContext_eq inside back, ?_⟩⟩
  have there : (s'.withContext switch.source back).threads[switch.target]? = some u := by
    rw [withContext_slot, slot', Option.map_some, if_neg apart]
  simp [contextOf, Checked.get_eq_ok there, stored]

theorem Decision.peopled_exchange (dec : s.Decision switch s') (coh : s.Coherent)
    (exchange : s'.Exchange switch back s'' next) (waits : W back)
    (peopled : s.Peopled P W back) : s''.Peopled P W next := by
  cases exchange with
  | idle same => exact dec.peopled_idle coh same peopled
  | busy apart target stored => exact dec.peopled_switched coh apart peopled waits target stored

/-- Whoever runs after a decision that was carried out goes on with something that had been
stored. -/
theorem Decision.exchange_waits (dec : s.Decision switch s') (coh : s.Coherent)
    (exchange : s'.Exchange switch back s'' next) (waits : W back) {running : κ}
    (peopled : s.Peopled P W running) : W next := by
  cases exchange with
  | idle => exact waits
  | busy apart target stored =>
    obtain ⟨t, slot, inLine⟩ := dec.target_slot coh
    have live : t.state ≠ .unused := by
      rintro unused
      simp [unused] at inLine
    have other : switch.target ≠ s.current := by
      rw [← dec.source]
      exact fun same => apart (beq_iff_eq.mpr same.symm)
    obtain ⟨r, found, _, awaits⟩ := peopled _ t slot live
    rw [resident_waiting slot live other, ← (dec.same_slot coh slot target).context, stored,
      Option.map_some, Option.some.injEq] at found
    subst found
    exact awaits other

theorem terminate_main (b : Bench κ) : b.apply prime (.terminate 0) =
    .ok (.ended .processEnd, { b with scheduler := { b.scheduler with shutdown := true } }) := by
  simp only [Bench.apply, terminate, if_true, ok_bind, pure_eq_ok, Bench.conclude]

/-- A running thread that is to end does. -/
theorem terminate_current {b b' : Bench κ} (formed : b.scheduler.Formed)
    (runs : b.scheduler.state? b.scheduler.current = some .running)
    (applied : b.apply prime (.terminate b.scheduler.current) = .ok (answer, b')) :
    answer = .ended .ownEnd ∨ answer = .ended .processEnd := by
  by_cases main : b.scheduler.current = 0
  · rw [main, terminate_main, Except.ok.injEq, Prod.mk.injEq] at applied
    exact .inr applied.1.symm
  · obtain ⟨s', ended⟩ : ∃ s', b.apply prime (.terminate b.scheduler.current) =
        .ok (.ended .ownEnd, { b with scheduler := s' }) := terminate_own formed runs main
    rw [ended, Except.ok.injEq, Prod.mk.injEq] at applied
    exact .inl applied.1.symm

/-- A live thread other than the main one can be ended. -/
theorem terminate_ends {b b' : Bench κ} (formed : b.scheduler.Formed) {tid : Tid} {t : Thread κ}
    (spawned : tid ≠ 0) (slot : b.scheduler.threads[tid]? = some t) (live : t.state ≠ .unused)
    (applied : b.apply prime (.terminate tid) = .ok (answer, b')) (e : Error) :
    answer ≠ .refused e := by
  rintro rfl
  have inside := (List.getElem?_eq_some_iff.mp slot).1
  have found : b.scheduler.thread tid = .ok t := by simp [thread, slot, Thread.isUnused, live]
  obtain ⟨ready, removed, _⟩ := formed.ring.remove_eq tid
  simp only [Bench.apply, terminate, if_neg spawned, found, Checked.set_eq_ok inside, removed,
    ok_bind] at applied
  split at applied <;> simp [Bench.conclude] at applied

/-- After an operation that takes the running thread off the processor its slot holds it, unless it
has ended. -/
theorem Effect.left (effect : s.Effect op answer s') (due : answer.callsForDecision = true)
    {u : Thread κ} (slot : s'.threads[s.current]? = some u) (live : u.state ≠ .unused) :
    op ≠ .terminate s.current := by
  cases effect with
  | blockedRunning | slept => simp
  | endedSelf _ _ _ up =>
    rw [up.here] at slot
    exact absurd (Option.some.inj slot ▸ rfl) live
  | _ => simp [Answer.callsForDecision] at due

/-- Whoever leaves the processor neither gets a stack nor gives one back. -/
theorem Answer.moves_nothing (due : answer.callsForDecision = true) (s : Scheduler κ) :
    answer.freed = none ∧ s.granted answer = none := by
  unfold callsForDecision at due
  split at due
  · exact ⟨rfl, rfl⟩
  · exact ⟨rfl, rfl⟩
  · simp at due

namespace Dispatch

theorem ordinary (dispatch : Dispatch prime W s op back given freed s' next) : op.isOrdinary := by
  cases dispatch with
  | quiet _ ordinary | yielded ordinary => exact ordinary
  | ticked => rfl

/-- A dispatch keeps the table in order and somebody running. -/
theorem formed (dispatch : Dispatch prime W s op back given freed s' next) (coh : s.Coherent)
    (runs : s.state? s.current = some .running) :
    s'.Coherent ∧ s'.state? s'.current = some .running ∧ s'.shutdown = s.shutdown := by
  cases dispatch with
  | quiet _ _ _ _ effect quiet goesOn =>
    exact ⟨effect.coherent coh, (effect.runs coh runs quiet).1, effect.shutdown goesOn⟩
  | ticked _ dec _ _ exchange =>
    refine ⟨exchange.coherent (dec.coherent coh), ?_, exchange.shutdown.trans dec.shutdown⟩
    rw [exchange.state?, exchange.current, dec.current]
    exact dec.target_running coh
  | yielded _ _ effect due _ dec _ _ exchange =>
    have coherent := effect.coherent coh
    refine ⟨exchange.coherent (dec.coherent coherent), ?_, ?_⟩
    · rw [exchange.state?, exchange.current, dec.current]
      exact dec.target_running coherent
    · rw [exchange.shutdown, dec.shutdown]
      exact effect.shutdown (by rintro rfl; simp [Answer.callsForDecision] at due)

theorem mid_peopled {mid : Scheduler κ} (effect : s.Effect op answer mid)
    (due : answer.callsForDecision = true) (runs : s.state? s.current = some .running) {running : κ}
    (peopled : s.Peopled P W running) : mid.Peopled P W running :=
  peopled.effect effect (effect.not_schedule_of_due due)
    (fun i u spawned => by simp [spawned, Answer.callsForDecision] at due) runs

/-- Whoever stays on the processor without a decision has not ended itself. -/
theorem stays_of_quiet {s' : Scheduler κ} (coh : s.Coherent)
    (runs : s.state? s.current = some .running)
    (applied : Bench.apply ⟨s, none⟩ prime op = .ok (answer, ⟨s', none⟩))
    (quiet : answer.callsForDecision = false) (goesOn : answer ≠ .ended .processEnd) :
    op ≠ .terminate s.current := by
  rintro rfl
  rcases terminate_current (b := ⟨s, none⟩) coh.formed runs applied with rfl | rfl
  · simp [Answer.callsForDecision] at quiet
  · exact goesOn rfl

/-- Whoever runs then is who ran before, or goes on with something that had been stored. -/
theorem stays_or_waits (dispatch : Dispatch prime W s op back given freed s' next)
    (coh : s.Coherent) (runs : s.state? s.current = some .running) {running : κ}
    (peopled : s.Peopled P W running) :
    (op ≠ .terminate s.current ∧ next = back) ∨ W next := by
  cases dispatch with
  | quiet _ _ _ applied _ quiet goesOn =>
    exact .inl ⟨stays_of_quiet coh runs applied quiet goesOn, rfl⟩
  | ticked _ dec _ waits exchange => exact .inr (dec.exchange_waits coh exchange waits peopled)
  | yielded _ _ effect due _ dec _ waits exchange =>
    exact .inr (dec.exchange_waits (effect.coherent coh) exchange waits
      (mid_peopled effect due runs peopled))

/-- The end of the main thread is no matter of the scheduler's. -/
theorem ne_terminate_main (dispatch : Dispatch prime W s op back given freed s' next) :
    op ≠ .terminate 0 := by
  rintro rfl
  generalize ends : Op.terminate 0 = op at dispatch
  have only : ∀ {answer : Answer} {b : Bench κ},
      Bench.apply ⟨s, none⟩ prime op = .ok (answer, b) → answer = .ended .processEnd := by
    intro answer b applied
    rw [← ends, terminate_main, Except.ok.injEq, Prod.mk.injEq] at applied
    exact applied.1.symm
  cases dispatch with
  | quiet _ _ _ applied _ _ goesOn => exact goesOn (only applied)
  | ticked => simp at ends
  | yielded _ applied _ due => simp [only applied, Answer.callsForDecision] at due

/-- The main thread leaves the processor in a tick only: it can neither block nor sleep. -/
theorem ticks_of_leaves_main (dispatch : Dispatch prime W s op back given freed s' next)
    (main : s.current = 0) (leaves : s'.current ≠ 0) : op = .schedule := by
  cases dispatch with
  | quiet _ _ asked _ effect => exact absurd ((effect.keeps asked).1.trans main) leaves
  | ticked => rfl
  | yielded _ _ effect due =>
    cases effect with
    | blockedRunning _ spawned | slept _ spawned | endedSelf _ spawned => exact absurd main spawned
    | _ => simp [Answer.callsForDecision] at due

/-- A stack is parked only until whoever runs takes it. -/
theorem parked_or_waits (dispatch : Dispatch prime W s op back given freed s' next)
    (coh : s.Coherent) (runs : s.state? s.current = some .running) (parked : s.parked = none)
    {running : κ} (peopled : s.Peopled P W running) : s'.parked = none ∨ W next := by
  cases dispatch with
  | quiet _ _ _ _ effect quiet => exact .inl ((effect.runs coh runs quiet).2.trans parked)
  | ticked _ dec _ waits exchange => exact .inr (dec.exchange_waits coh exchange waits peopled)
  | yielded _ _ effect due _ dec _ waits exchange =>
    exact .inr (dec.exchange_waits (effect.coherent coh) exchange waits
      (mid_peopled effect due runs peopled))

/-- All residents live through a dispatch, except the one that ends; the one that is admitted is as
it was primed. -/
theorem peopled (dispatch : Dispatch prime W s op back given freed s' next) (coh : s.Coherent)
    (runs : s.state? s.current = some .running) {running : κ} (peopled : s.Peopled P W running)
    (others : ∀ i r, i ≠ s.current → P i r → P' i r)
    (own : op ≠ .terminate s.current → ∀ t, s.threads[s.current]? = some t →
      P' s.current ⟨t.stack, t.entry, back⟩)
    (new : ∀ i program size map stack, op = .spawn (some program) size map →
      Stack.request map size = .ok (.ok stack) → i ≠ 0 →
      ∃ context, prime i stack = some context ∧ P' i ⟨some stack, some program, context⟩ ∧
        W context) : s'.Peopled P' W next := by
  cases dispatch with
  | quiet back ordinary asked applied effect quiet goesOn =>
    have stays := stays_of_quiet coh runs applied quiet goesOn
    have changed : s.Peopled P' W back := peopled.becomes others fun t slot _ => own stays t slot
    refine changed.effect effect asked ?_ runs
    rintro i u rfl _ slot
    cases effect with
    | admitted _ _ _ spawned =>
      obtain ⟨program, stack, rfl, request, entry, at_stack, context⟩ :=
        spawned_slot (b := ⟨s, none⟩) coh.formed applied slot
      rw [entry, at_stack, context]
      exact new i program _ _ stack rfl request spawned
  | ticked _ dec _ waits exchange =>
    exact dec.peopled_exchange coh exchange waits
      (peopled.becomes others fun t slot _ => own (by simp) t slot)
  | yielded _ _ effect due _ dec _ waits exchange =>
    refine dec.peopled_exchange (effect.coherent coh) exchange waits ?_
    have current := (effect.keeps (effect.not_schedule_of_due due)).1
    refine (mid_peopled effect due runs peopled).becomes (by rwa [current]) ?_
    rw [current]
    intro u slot live
    rcases effect.slots (effect.not_schedule_of_due due) slot live with
      ⟨t, before, same⟩ | ⟨spawned, _⟩
    · rw [same.stack, same.entry]
      exact own (effect.left due slot live) t before
    · simp [spawned, Answer.callsForDecision] at due

/-- A stack that is new was asked for by a spawn. -/
theorem given_eq (dispatch : Dispatch prime W s op back (some stack) freed s' next)
    (coh : s.Coherent) : ∃ program size map, op = .spawn (some program) size map ∧
      Stack.request map size = .ok (.ok stack) := by
  generalize granted : some stack = given at dispatch
  cases dispatch with
  | ticked | yielded => simp at granted
  | quiet _ _ asked applied effect =>
    cases effect with
    | admitted program stack' _ _ _ _ up =>
      obtain ⟨program, asked, rfl, request, _, same, _⟩ :=
        spawned_slot (b := ⟨s, none⟩) coh.formed applied up.here
      have new : stack = stack' := by simpa [Scheduler.granted, up.here] using granted
      rw [new, Option.some.inj same]
      exact ⟨program, _, _, rfl, request⟩
    | decided => exact absurd rfl asked
    | _ => simp [Scheduler.granted] at granted

theorem owned_perm (dispatch : Dispatch prime W s op back given freed s' next) (coh : s.Coherent)
    (parked : s.parked = none) :
    (freed.toList ++ s'.owned).Perm (given.toList ++ s.owned) := by
  cases dispatch with
  | quiet _ _ asked _ effect => exact effect.owned_perm asked coh parked
  | ticked _ dec kept _ exchange => rw [exchange.owned_eq, dec.owned_eq kept]
  | yielded _ _ effect due _ dec kept _ exchange =>
    rw [exchange.owned_eq, dec.owned_eq kept]
    have perm := effect.owned_perm (effect.not_schedule_of_due due) coh parked
    rwa [(Answer.moves_nothing due s).1, (Answer.moves_nothing due _).2] at perm

/-- A dispatch is a step of a disciplined run, once the parked stack has been taken. -/
theorem step (dispatch : Dispatch prime W s op back given freed s' next) (coh : s.Coherent)
    (runs : s.state? s.current = some .running) (parked : s.parked = none) :
    ∃ step : Step κ, step.Valid prime ∧ step.before = ⟨s, none⟩ ∧ step.op = op ∧
      step.after.outline = ⟨{ s'.outline with parked := none }, none⟩ := by
  cases dispatch with
  | @quiet _ answer _ _ ordinary asked applied effect quiet =>
    have free : s'.parked = none := (effect.runs coh runs quiet).2.trans parked
    refine ⟨⟨⟨s, none⟩, op, answer, ⟨s', none⟩, none, ⟨s', none⟩⟩, ⟨ordinary, applied, ?_⟩, rfl,
      rfl, ?_⟩
    · simp [Bench.settle, quiet]
    · simp [Bench.outline, outline, free]
  | @ticked switch mid _ _ _ decided dec kept _ exchange =>
    refine ⟨⟨⟨s, none⟩, .schedule, .switched switch, ⟨mid, none⟩, none, ⟨mid, none⟩⟩,
      ⟨rfl, ?_, rfl⟩, rfl, rfl, ?_⟩
    · simp [Bench.apply, decided]
    · have free : mid.outline.parked = none := kept.trans parked
      rw [exchange.outline_eq, Bench.outline, ← free]
  | @yielded _ answer switch mid decided _ _ _ ordinary applied effect due made _ _ _ exchange =>
    refine ⟨⟨⟨s, none⟩, op, answer, ⟨mid, none⟩, some (switch, decided.parked),
      ⟨{ decided with parked := none }, none⟩⟩, ⟨ordinary, applied, ?_⟩, rfl, rfl, ?_⟩
    · simp [Bench.settle, due, Bench.decide, made, takeParked]
    · rw [exchange.outline_eq]
      rfl

/-- A thread that is ended gives its stack away: at once, or when it ended itself, through
`parked`. -/
theorem ended_cases {tid : Tid} {t : Thread κ}
    (dispatch : Dispatch prime W s (.terminate tid) back given freed s' next) (coh : s.Coherent)
    (spawned : tid ≠ 0) (slot : s.threads[tid]? = some t) (live : t.state ≠ .unused) :
    (tid ≠ s.current ∧ freed = t.stack) ∨
      (tid = s.current ∧ freed = none ∧ s'.parked = t.stack) := by
  generalize terminates : Op.terminate tid = op at dispatch
  cases dispatch with
  | quiet _ _ _ applied effect quiet =>
    subst terminates
    cases effect with
    | refused e =>
      exact absurd rfl (terminate_ends (b := ⟨s, none⟩) coh.formed spawned slot live applied e)
    | endedMain => exact absurd rfl spawned
    | endedOther there _ _ other =>
      rw [slot, Option.some.injEq] at there
      exact .inl ⟨other, by rw [there]; rfl⟩
    | endedSelf => simp [Answer.callsForDecision] at quiet
  | ticked => simp at terminates
  | yielded _ _ effect due _ _ kept _ exchange =>
    subst terminates
    cases effect with
    | endedSelf here =>
      rw [slot, Option.some.injEq] at here
      exact .inr ⟨rfl, rfl, by rw [exchange.parked, kept, here]⟩
    | _ => simp [Answer.callsForDecision] at due

theorem ended {tid : Tid} {t : Thread κ}
    (dispatch : Dispatch prime W s (.terminate tid) back given freed s' next) (coh : s.Coherent)
    (spawned : tid ≠ 0) (slot : s.threads[tid]? = some t) (live : t.state ≠ .unused) :
    freed = t.stack ∨ s'.parked = t.stack := by
  rcases dispatch.ended_cases coh spawned slot live with ⟨_, freed⟩ | ⟨_, _, parked⟩
  · exact .inl freed
  · exact .inr parked

end Dispatch

end RoundRobin.Scheduler
