import RoundRobin.Proofs.Scheduler.Careless
import RoundRobin.Proofs.Scheduler.Correspondence

/-!
# What a passing check is worth

A careless caller can leave a state that passes the check and is not sound: a thread that runs with
a deadline of an earlier sleep, or a number that is queued twice. The check does not look at either.

Left-over deadlines do no harm, and neither does anything else outside number, state, stack and the
deadline of a sleeper: a passing state corresponds to a tidied one, and if no number is queued twice
that one is settled. A number that is queued twice does harm: once its thread is blocked, it is
blocked and queued. So a passing check certifies a state exactly if nobody stands in the queue
twice.
-/

namespace RoundRobin

variable {κ : Type}

/-- The same thread as far as operations can tell. -/
structure Thread.Resembles (t u : Thread κ) : Prop where
  tid : t.tid = u.tid
  state : t.state = u.state
  stack : t.stack = u.stack
  deadline : t.state.isSleeping → t.wakeAt = u.wakeAt

/-- The thread without what its state does not call for, and with an entry if it does. -/
def Thread.tidied (t : Thread κ) : Thread κ :=
  { t with
    entry := if t.isUnused then none else some (t.entry.getD 0)
    quanta := if t.isUnused then 0 else t.quanta
    wakeAt := if t.state.isSleeping then t.wakeAt else 0 }

theorem Thread.resembles_tidied (t : Thread κ) : t.Resembles t.tidied :=
  ⟨rfl, rfl, rfl, fun asleep => (if_pos asleep).symm⟩

namespace Scheduler

theorem resembles_correspondence (prime : Tid → Stack → Option κ) :
    Correspondence prime prime Thread.Resembles where
  tid := Thread.Resembles.tid
  state := Thread.Resembles.state
  stack := Thread.Resembles.stack
  due := by
    intro t u same now
    unfold Thread.isDue
    rw [← same.state]
    by_cases asleep : t.state.isSleeping
    · rw [same.deadline asleep]
    · simp [asleep]
  moved := fun same _ asleep => ⟨same.tid, rfl, same.stack, fun h => same.deadline (asleep h)⟩
  dated := fun same _ _ => ⟨same.tid, rfl, same.stack, fun _ => rfl⟩
  picked := fun same => ⟨same.tid, rfl, same.stack, by simp [Thread.markRunning]⟩
  admitted := fun same _ _ _ => ⟨same.tid, rfl, rfl, fun _ => rfl⟩
  blank := fun _ => ⟨rfl, rfl, rfl, fun _ => rfl⟩

def tidied (s : Scheduler κ) : Scheduler κ := { s with threads := s.threads.map Thread.tidied }

theorem alike_tidied (s : Scheduler κ) : s.Alike Thread.Resembles s.tidied := by
  have slots : List.Forall₂ Thread.Resembles s.threads (s.threads.map Thread.tidied) := by
    rw [List.forall₂_map_right_iff, List.forall₂_same]
    exact fun t _ => t.resembles_tidied
  exact .intro slots

/-- The counter has begun to count, and sleepers have deadlines. -/
structure Dated (s : Scheduler κ) : Prop where
  begun : s.total ≠ 0
  deadline : ∀ (i : Tid) (t : Thread κ), s.threads[i]? = some t → t.state.isSleeping → t.wakeAt ≠ 0

variable {s s' start : Scheduler κ} {op : Op} {answer : Answer} {moves : List (Move κ)}

theorem Update.dated {i : Tid} {t : Thread κ} {queue : List Tid} (up : s.Update i t queue s')
    (dated : s.Dated) (here : t.state.isSleeping → t.wakeAt ≠ 0) : s'.Dated where
  begun := up.total ▸ dated.begun
  deadline := by
    intro j u at_j
    by_cases same : j = i
    · subst same
      rw [up.here] at at_j
      exact Option.some.inj at_j ▸ here
    · rw [up.elsewhere same] at at_j
      exact dated.deadline j u at_j

theorem expired_asleep {t : Thread κ} {now : Nat} (asleep : (t.expired now).state.isSleeping) :
    t.expired now = t := by
  by_cases due : t.isDue now
  · rcases Thread.asleep_of_due due with h | h
    · simp [Thread.expired_of_sleeping due h] at asleep
    · simp [Thread.expired_of_sleepBlocked due h] at asleep
  · exact Thread.expired_of_not_due due

/-- Whoever sleeps after a decision slept before, with the same deadline. -/
theorem turn_asleep {target i : Tid} {t : Thread κ}
    (asleep : (s.turn target i t).state.isSleeping) : s.turn target i t = t := by
  unfold turn at asleep ⊢
  by_cases picked : i = target
  · simp [picked, Thread.markRunning] at asleep
  · simp only [if_neg picked] at asleep ⊢
    split at asleep
    · simp [Thread.markReady] at asleep
    · next resting => rw [if_neg resting, expired_asleep asleep]

theorem Decision.dated {switch : Switch} (dec : s.Decision switch s') (dated : s.Dated) :
    s'.Dated where
  begun := by
    rw [dec.total]
    exact Nat.succ_ne_zero s.total
  deadline := by
    intro i u at_i asleep
    obtain ⟨t, at_t, rfl⟩ : ∃ t, s.threads[i]? = some t ∧ s.turn switch.target i t = u := by
      simpa [dec.slots] using at_i
    have same := turn_asleep asleep
    rw [same] at asleep ⊢
    exact dated.deadline i t at_t asleep

theorem Effect.dated (effect : s.Effect op answer s') (dated : s.Dated) : s'.Dated := by
  cases effect with
  | refused | blockedAgain | resumedIdle => exact dated
  | endedMain => exact ⟨dated.begun, dated.deadline⟩
  | decided dec _ => exact dec.dated dated
  | admitted _ _ _ _ _ _ up | blockedReady _ _ _ up | blockedRunning _ _ _ up
  | resumedBlocked _ _ up | endedOther _ _ _ _ up => exact up.dated dated (by simp [Thread.unused])
  | blockedAsleep slot _ asleep up =>
    have set := dated.deadline _ _ slot asleep
    exact up.dated dated fun _ => set
  | resumedAsleep slot asleep up =>
    have set := dated.deadline _ _ slot (by simp [asleep])
    exact up.dated dated fun _ => set
  | slept _ _ _ positive up => exact up.dated dated fun _ => addSaturating_ne_zero positive
  | endedSelf _ _ _ up =>
    have next := up.dated dated (by simp [Thread.unused])
    exact ⟨next.begun, next.deadline⟩

theorem Change.dated (change : s.Change op answer s') (dated : s.Dated) : s'.Dated := by
  cases change with
  | regular effect => exact effect.dated dated
  | blockedStray _ _ _ _ up | blockedQueued _ _ _ up => exact up.dated dated (by simp)
  | sleptIdle _ _ _ up =>
    -- Here nothing is known about the length of the sleep.
    refine up.dated dated fun _ => ?_
    have begun := dated.begun
    simp only [Thread.putToSleep, addSaturating, wordMax]
    omega
  | endedCurrent _ _ _ up =>
    have next := up.dated dated (by simp [Thread.unused])
    exact ⟨next.begun, next.deadline⟩
  | handedOff _ up =>
    have next := up.dated dated (by simp)
    exact ⟨next.begun, next.deadline⟩
  | tookParked => exact ⟨dated.begun, dated.deadline⟩
  | adoptedNothing => exact dated
  | tornDown =>
    refine ⟨dated.begun, fun i u at_i => ?_⟩
    obtain ⟨t, slot, rfl⟩ := releaseAll_slot_inv at_i
    split
    · exact dated.deadline i t slot
    · simp [Thread.unused]
  | restacked _ _ _ slot up =>
    have set := dated.deadline _ _ slot
    exact up.dated dated set

theorem Moves.dated (run : Moves start moves s) (formed : start.Formed) (dated : start.Dated) :
    s.Dated := by
  induction run with
  | none => exact dated
  | more earlier valid ih => exact (valid.change (earlier.formed formed)).dated ih

/-- A state that passes is settled once it is tidied, if nobody is queued twice. That the main
thread is awake and that sleepers have deadlines is what the check leaves out. -/
theorem Passes.settled_tidied (passes : s.Passes) (formed : s.Formed)
    (nodup : s.ready.toList.Nodup) (parked : s.parked = none) (awake : s.MainAwake)
    (dated : s.Dated) : s.tidied.Settled := by
  have length : s.tidied.threads.length = s.threads.length := List.length_map ..
  refine ⟨⟨length ▸ formed.current_lt, length ▸ formed.ring, length ▸ formed.queued_lt, nodup, ?_⟩,
    ?_, parked⟩
  · intro i u at_i
    obtain ⟨t, slot, rfl⟩ : ∃ t, s.threads[i]? = some t ∧ t.tidied = u := by
      simpa [tidied] using at_i
    have state : ∀ st, s.state? i = some st ↔ t.state = st := by
      intro st
      simp [state?, slot]
    exact
      { numbered := formed.numbered i t slot
        running := fun running => (passes.running_iff i).mp ((state _).mpr running)
        queued := (state _).symm.trans (passes.queued_iff i).symm
        deadline := by
          by_cases asleep : t.state.isSleeping
          · simpa [Thread.tidied, asleep] using dated.deadline i t slot asleep
          · simp [Thread.tidied, asleep]
        blank := by
          intro unused
          have unused : t.state = .unused := unused
          simp [Thread.tidied, Thread.isUnused, unused]
        stack := passes.stack_iff i t slot
        entry := fun _ => by simp [Thread.tidied, Thread.isUnused]
        main := by
          rintro rfl
          have rests := awake.cases slot
          exact rests }
  · have same := (resembles_correspondence fun _ _ => none).state? s.alike_tidied s.current
    exact same.trans ((passes.running_iff s.current).mpr rfl)

/-- A spawned thread that is queued twice and then blocked is blocked and queued. -/
theorem Passes.not_safe {held : Option Stack} {prime : Tid → Stack → Option κ} (passes : s.Passes)
    (formed : s.Formed) {tid : Tid} (spawned : tid ≠ 0) (twice : 2 ≤ s.ready.toList.count tid) :
    ¬ Safe prime ⟨s, held⟩ := by
  have queued : tid ∈ s.ready.toList := List.count_pos_iff.mp (by omega)
  have ready := (passes.queued_iff tid).mp queued
  obtain ⟨t, slot, state⟩ := state?_eq_some.mp ready
  have other : tid ≠ s.current := by
    intro same
    simp [(passes.running_iff tid).mpr same] at ready
  obtain ⟨s', applied, up⟩ : ∃ s', Bench.apply ⟨s, held⟩ prime (.block tid) =
      .ok (.suspension .goOn, ⟨s', held⟩) ∧ _ :=
    block_ready (b := ⟨s, held⟩) formed slot spawned other state
  have after := up.formed formed slot rfl fun j hj =>
    formed.queued_lt j (List.mem_of_mem_erase hj)
  have valid : Step.Valid prime
      ⟨⟨s, held⟩, .block tid, .suspension .goOn, ⟨s', held⟩, none, ⟨s', held⟩⟩ :=
    ⟨rfl, applied, rfl⟩
  intro safe
  obtain ⟨holds, _⟩ := safe _ _ (.step valid (.stop _))
  have remains : tid ∈ s'.ready.toList := by
    rw [up.queue_eq, ← List.count_pos_iff, List.count_erase_self]
    exact Nat.sub_pos_of_lt twice
  have blocked := ((after.passes_iff.mp holds).queued_iff tid).mp remains
  simp [state?, up.here] at blocked

/-- A passing check alone is no certificate. Thread 1 is blocked and lifted twice without giving up
the processor and so stands in the queue twice; once the main thread runs, the check passes. The
next decision gives thread 1 the processor and leaves it in the queue. If another thread is spawned
before it, the queue has no room for everybody. -/
theorem passing_check_deceives :
    ∃ (start : Scheduler Unit) (moves : List (Move Unit)) (s : Scheduler Unit)
      (r : Answer × Option (Switch × Option Stack)) (after : Bench Unit) (steps : List (Step Unit))
      (crowded : Bench Unit),
      Scheduler.new 3 = .ok start ∧ Moves start moves s ∧ s.invariantsHold = .ok true ∧
        s.parked = none ∧ s.total < wordMax ∧ s.ready.toList = [1, 1] ∧
        Bench.act ⟨s, none⟩ (fun _ _ => none) .schedule = .ok (r, after) ∧
        after.scheduler.invariantsHold = .ok false ∧
        Run (fun _ _ => none) ⟨s, none⟩ steps crowded ∧
        crowded.act (fun _ _ => none) .schedule = .error (.abort .queueOverflow) := by
  obtain ⟨start, new⟩ : ∃ start : Scheduler Unit, Scheduler.new 3 = .ok start := ⟨_, rfl⟩
  obtain ⟨moves, b, r, after, steps, crowded, played, holds, parked, inWord, queue, decided, fails,
      traced, full⟩ :
      ∃ (moves : List (Move Unit)) (b : Bench Unit) (r : Answer × Option (Switch × Option Stack))
        (after : Bench Unit) (steps : List (Step Unit)) (crowded : Bench Unit),
        playFresh (fun _ _ => none) 3
            [.spawn (some 7) 16384 (mapAt 65536), .schedule, .block 1, .resume 1, .block 1,
              .resume 1, .schedule] = .ok (moves, b) ∧
          b.scheduler.invariantsHold = .ok true ∧ b.scheduler.parked = none ∧
          b.scheduler.total < wordMax ∧ b.scheduler.ready.toList = [1, 1] ∧
          Bench.act ⟨b.scheduler, none⟩ (fun _ _ => none) .schedule = .ok (r, after) ∧
          after.scheduler.invariantsHold = .ok false ∧
          trace (fun _ _ => none) ⟨b.scheduler, none⟩ [.spawn (some 8) 16384 (mapAt 131072)] =
            .ok (steps, crowded) ∧
          crowded.act (fun _ _ => none) .schedule = .error (.abort .queueOverflow) :=
    ⟨_, _, _, _, _, _, rfl, rfl, rfl, by decide, rfl, rfl, rfl, rfl, rfl⟩
  exact ⟨start, moves, b.scheduler, r, after, steps, crowded, new, playFresh_moves new _ played,
    holds, parked, inWord, queue, decided, fails, trace_run _ (by decide) traced, full⟩

/-- However careless the caller was, a state that passes the check with nothing parked is safe
exactly if nobody stands in the queue twice: then no disciplined caller who goes on from it meets a
failing check or makes the library give up. -/
theorem passing_check_certifies_iff (capacity : Nat) (one : 1 ≤ capacity)
    (fits : capacity < 2 ^ 60) :
    ∃ start : Scheduler κ, Scheduler.new capacity = .ok start ∧
      ∀ moves s, Moves start moves s → s.invariantsHold = .ok true → s.parked = none →
        ∀ (held : Option Stack) (prime : Tid → Stack → Option κ),
          Safe prime ⟨s, held⟩ ↔ s.ready.toList.Nodup := by
  obtain ⟨start, new, _, settled, _, begun⟩ := new_scheduler (κ := κ) one fits
  refine ⟨start, new, fun moves s run holds parked held prime => ?_⟩
  have coh := settled.coherent
  have formed := run.formed coh.formed
  have passes := formed.passes_iff.mp holds
  obtain ⟨awake, placed⟩ := keepsMain_iff.mp settled.keepsMain
  obtain ⟨awake', once⟩ := run.main_once coh.formed awake placed.le
  have dated : start.Dated :=
    ⟨by omega, fun i t slot asleep => (coh.slots i t slot).deadline.mpr asleep⟩
  constructor
  · intro safe
    by_contra repeated
    rw [List.nodup_iff_count_le_one, not_forall] at repeated
    obtain ⟨tid, twice⟩ := repeated
    have spawned : tid ≠ 0 := by
      rintro rfl
      have places : s.ready.toList.count 0 ≤ s.mainPlaces := Nat.le_add_right _ _
      omega
    exact passes.not_safe formed spawned (Nat.lt_of_not_le twice) safe
  · intro nodup
    have twin := passes.settled_tidied formed nodup parked awake' (run.dated coh.formed dated)
    exact (resembles_correspondence prime).safe (d := ⟨s.tidied, held⟩) ⟨s.alike_tidied, rfl⟩ twin

/-- The session goes on: thread 1 falls asleep while it is queued and gets the processor again. It
runs with a deadline that it never reached, and the check passes. Nobody is queued twice by now,
so all is well. -/
theorem passing_check_certifies_iff_outdated :
    ∃ (start : Scheduler Unit) (moves : List (Move Unit)) (s : Scheduler Unit) (t : Thread Unit),
      1 ≤ 3 ∧ 3 < 2 ^ 60 ∧ Scheduler.new 3 = .ok start ∧ Moves start moves s ∧
        s.invariantsHold = .ok true ∧ s.parked = none ∧ s.threads[1]? = some t ∧
        t.state = .running ∧ t.wakeAt = 9 ∧ ¬ s.Sound ∧
        (Safe (fun _ _ => none) ⟨s, none⟩ ↔ s.ready.toList.Nodup) ∧
        Safe (fun _ _ => none) ⟨s, none⟩ := by
  obtain ⟨start, new, all⟩ := passing_check_certifies_iff (κ := Unit) 3 (by decide) (by decide)
  obtain ⟨moves, b, t, played, holds, parked, slot, running, deadline, queue⟩ :
      ∃ (moves : List (Move Unit)) (b : Bench Unit) (t : Thread Unit),
        playFresh (fun _ _ => none) 3
            [.spawn (some 7) 16384 (mapAt 65536), .schedule, .block 1, .resume 1, .block 1,
              .resume 1, .schedule, .schedule, .sleep 5, .schedule] = .ok (moves, b) ∧
          b.scheduler.invariantsHold = .ok true ∧ b.scheduler.parked = none ∧
          b.scheduler.threads[1]? = some t ∧ t.state = .running ∧ t.wakeAt = 9 ∧
          b.scheduler.ready.toList = [0] :=
    ⟨_, _, _, rfl, rfl, rfl, rfl, rfl, rfl, rfl⟩
  have run := playFresh_moves new _ played
  have certifies := all moves b.scheduler run holds parked none fun _ _ => none
  have unsound : ¬ b.scheduler.Sound := by
    intro sound
    have asleep := (sound.deadline_iff 1 t slot).mp (by simp [deadline])
    simp [running] at asleep
  have once : b.scheduler.ready.toList.Nodup := by
    rw [queue]
    decide
  exact ⟨start, moves, b.scheduler, t, by decide, by decide, new, run, holds, parked, slot, running,
    deadline, unsound, certifies, certifies.mpr once⟩

end Scheduler

end RoundRobin
