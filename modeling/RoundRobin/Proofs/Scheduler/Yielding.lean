import RoundRobin.Proofs.Scheduler.Dispatch

/-!
# Giving up the processor

Decisions are made at ticks, and when the running thread gives up the processor of its own accord:
it blocks itself, goes to sleep or ends itself. In the second case somebody else runs afterwards. A
tick leaves the running thread where it is if nobody waits and nobody is to be woken.
-/

namespace RoundRobin.Scheduler

variable {κ : Type} {s s' : Scheduler κ} {op : Op} {answer : Answer} {switch : Switch}
  {prime : Tid → Stack → Option κ} {W : κ → Prop} {back next : κ} {given freed : Option Stack}

/-- The operations that take the running thread off the processor. -/
theorem due_iff (coh : s.Coherent) (runs : s.state? s.current = some .running)
    (ordinary : op.isOrdinary) {b : Bench κ}
    (applied : Bench.apply ⟨s, none⟩ prime op = .ok (answer, b)) :
    answer.callsForDecision = true ↔ s.current ≠ 0 ∧
      (op = .block s.current ∨ op = .terminate s.current ∨
        ∃ quanta, quanta ≠ 0 ∧ op = .sleep quanta) := by
  constructor
  · intro due
    have cases : Answers ⟨s, none⟩ prime op ∨ _ := apply_cases coh runs ordinary
    rcases cases with ⟨answer', s', applied', effect⟩ | ⟨f, failed, _⟩
    · obtain ⟨rfl, _⟩ : answer' = answer ∧ _ :=
        Prod.mk.inj (Except.ok.inj (applied'.symm.trans applied))
      cases effect with
      | blockedRunning _ spawned => exact ⟨spawned, .inl rfl⟩
      | slept _ spawned _ positive => exact ⟨spawned, .inr (.inr ⟨_, positive, rfl⟩)⟩
      | endedSelf _ spawned => exact ⟨spawned, .inr (.inl rfl)⟩
      | _ => simp [Answer.callsForDecision] at due
    · simp [failed] at applied
  · rintro ⟨spawned, rfl | rfl | ⟨quanta, positive, rfl⟩⟩
    · obtain ⟨t, slot, running⟩ := state?_eq_some.mp runs
      have state : s.stateOf s.current = .ok .running := by
        simp [stateOf, thread, slot, Thread.isUnused, running, Except.map]
      simp [Bench.apply, block, spawned, state, Bench.conclude] at applied
      simp [← applied.1, Answer.callsForDecision]
    · obtain ⟨s', ended⟩ : ∃ s', Bench.apply ⟨s, none⟩ prime (.terminate s.current) =
          .ok (.ended .ownEnd, ⟨s', none⟩) := terminate_own coh.formed runs spawned
      rw [ended, Except.ok.injEq, Prod.mk.injEq] at applied
      rw [← applied.1]
      rfl
    · obtain ⟨s', accepted, _⟩ : ∃ s', Bench.apply ⟨s, none⟩ prime (.sleep quanta) =
          .ok (.suspension .reschedule, ⟨s', none⟩) ∧ _ :=
        sleep_accepted (b := ⟨s, none⟩) coh.formed spawned positive
      rw [accepted, Except.ok.injEq, Prod.mk.injEq] at applied
      rw [← applied.1]
      rfl

/-- Whoever takes itself off the processor is not in line for it. -/
theorem Effect.not_in_line (effect : s.Effect op answer s') (due : answer.callsForDecision = true)
    (coh : s.Coherent) (inWord : s.total < wordMax) : s'.current ∉ s'.line := by
  have undecided := effect.not_schedule_of_due due
  obtain ⟨current, total⟩ := effect.keeps undecided
  intro mem
  obtain ⟨u, slot, inLine⟩ := ((effect.coherent coh).mem_line _).mp mem
  rw [current] at slot
  rw [total] at inLine
  cases effect with
  | blockedRunning _ _ _ up =>
    rw [up.here, Option.some.injEq] at slot
    simp [← slot] at inLine
  | @slept quanta _ _ _ _ _ positive up =>
    rw [up.here, Option.some.injEq] at slot
    have later : s.total < addSaturating s.total quanta := by
      unfold addSaturating
      omega
    simp only [← slot, Thread.isDue_iff, Thread.putToSleep] at inLine
    rcases inLine with ready | ⟨⟨_, due, _⟩, _⟩ | running
    · simp at ready
    · exact absurd due (Nat.not_le_of_lt later)
    · simp at running
  | endedSelf _ _ _ up =>
    have here := up.here
    rw [slot, Option.some.injEq] at here
    simp [here, Thread.unused] at inLine
  | _ => simp [Answer.callsForDecision] at due

namespace Dispatch

/-- Whoever gives up the processor is followed by somebody else. -/
theorem switches (dispatch : Dispatch prime W s op back given freed s' next) (coh : s.Coherent)
    (runs : s.state? s.current = some .running) (spawned : s.current ≠ 0)
    (yields : op = .block s.current ∨ op = .terminate s.current ∨
      ∃ quanta, quanta ≠ 0 ∧ op = .sleep quanta) : s'.current ≠ s.current := by
  cases dispatch with
  | quiet _ ordinary _ applied _ quiet =>
    simp [(due_iff coh runs ordinary applied).mpr ⟨spawned, yields⟩] at quiet
  | ticked => simp at yields
  | yielded _ _ effect due _ dec _ _ exchange =>
    obtain ⟨current, total⟩ := effect.keeps (effect.not_schedule_of_due due)
    have away := effect.not_in_line due coh (total ▸ dec.inWord)
    rw [exchange.current, dec.current]
    intro same
    apply away
    rw [dec.line, current, ← same]
    exact List.mem_cons_self

/-- A tick changes nothing about who runs if nobody is in the queue and nobody is due. -/
theorem tick_stays_iff (dispatch : Dispatch prime W s .schedule back given freed s' next)
    (coh : s.Coherent) (runs : s.state? s.current = some .running) :
    s'.current = s.current ↔ s.ready.toList = [] ∧
      ∀ (i : Tid) (t : Thread κ), s.threads[i]? = some t → t.state = .sleeping →
        s.total < t.wakeAt := by
  have woken : wokenBy s.total s.threads = [] ↔ ∀ (i : Tid) (t : Thread κ),
      s.threads[i]? = some t → t.state = .sleeping → s.total < t.wakeAt := by
    constructor
    · intro nobody i t slot asleep
      by_contra due
      have set : t.wakeAt ≠ 0 := (coh.slots i t slot).deadline.mpr (by simp [asleep])
      have mem : t.tid ∈ wokenBy s.total s.threads := mem_wokenBy.mpr
        ⟨t, List.mem_of_getElem? slot,
          (t.isDue_iff _).mpr ⟨set, Nat.le_of_not_lt due, by simp [asleep]⟩, asleep, rfl⟩
      simp [nobody] at mem
    · intro early
      refine List.eq_nil_iff_forall_not_mem.mpr fun i mem => ?_
      obtain ⟨t, there, due, asleep, _⟩ := mem_wokenBy.mp mem
      obtain ⟨j, slot⟩ := List.getElem?_of_mem there
      exact absurd ((t.isDue_iff _).mp due).2.1 (Nat.not_le_of_lt (early j t slot asleep))
  have line : s.line = (s.ready.toList ++ wokenBy s.total s.threads) ++ [s.current] := by
    rw [Scheduler.line, preempted, if_pos runs]
  rw [← woken, ← List.append_eq_nil_iff]
  generalize ticks : Op.schedule = op at dispatch
  cases dispatch with
  | quiet _ _ asked => exact absurd ticks.symm asked
  | yielded _ _ effect due => exact absurd ticks.symm (effect.not_schedule_of_due due)
  | ticked _ dec _ _ exchange =>
    rw [exchange.current, dec.current]
    have nodup := coh.line_nodup
    have front := dec.line
    rw [line] at nodup front
    -- The running thread is last in line, so it is first only if it is the only one.
    cases waiting : s.ready.toList ++ wokenBy s.total s.threads with
    | nil =>
      rw [waiting, List.nil_append, List.cons.injEq] at front
      simp [← front.1]
    | cons first others =>
      rw [waiting, List.cons_append, List.cons.injEq] at front
      rw [waiting, List.cons_append, List.nodup_cons] at nodup
      rw [← front.1]
      simp only [reduceCtorEq, iff_false]
      rintro rfl
      exact nodup.1 (by simp)

/-- A stack that is given back was another thread's. -/
theorem freed_other {stack : Stack}
    (dispatch : Dispatch prime W s op back given (some stack) s' next) :
    ∃ (i : Tid) (t : Thread κ), i ≠ s.current ∧ s.threads[i]? = some t ∧
      t.stack = some stack := by
  generalize gone : some stack = freed at dispatch
  cases dispatch with
  | ticked | yielded => simp at gone
  | quiet _ _ _ _ effect =>
    cases effect with
    | endedOther slot _ _ other => exact ⟨_, _, other, slot, rfl⟩
    | _ => simp [Answer.freed] at gone

end Dispatch

end RoundRobin.Scheduler
