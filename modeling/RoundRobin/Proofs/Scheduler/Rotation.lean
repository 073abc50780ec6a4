import RoundRobin.Proofs.Scheduler.Accounting
import Mathlib.Data.List.Rotate

/-!
# The rota

The running thread and those that wait behind it take turns: the rota. While nobody joins it or
leaves it, a decision moves it on by one place, and so a round of as many decisions as the rota has
members gives each of them one turn and ends where it began. Nobody joins while all sleepers have
time left, and nobody leaves who is only preempted.
-/

namespace RoundRobin.Scheduler

variable {κ : Type}

def rota (s : Scheduler κ) : List Tid := s.current :: s.ready.toList

def ticks : Nat → Scheduler κ → Except Halt (List Switch × Scheduler κ)
  | 0, s => .ok ([], s)
  | n + 1, s => do
    let (switch, s) ← s.schedule
    let (switches, s) ← ticks n s
    return (switch :: switches, s)

/-- No sleeper's deadline comes before the counter stands at `horizon`. -/
def Undisturbed (s : Scheduler κ) (horizon : Nat) : Prop :=
  ∀ (i : Tid) (t : Thread κ), s.threads[i]? = some t → t.state.isSleeping → horizon ≤ t.wakeAt

/-- `s'` is what becomes of `s` when the threads `sent` get the processor in turn and the rota moves
on by as many places. -/
structure Rotated (s : Scheduler κ) (sent : List Tid) (s' : Scheduler κ) : Prop where
  settled : s'.Settled
  rota : s'.rota = s.rota.rotate sent.length
  order : ∀ k, k < sent.length → sent[k]? = s.rota[(k + 1) % s.rota.length]?
  slots : ∀ i : Tid, s'.threads[i]? = s.threads[i]?.map fun t =>
    { t with
      state := if i = s'.current then .running else if i ∈ s.rota then .ready else t.state
      quanta := t.quanta + sent.count i }
  total : s'.total = s.total + sent.length
  shutdown : s'.shutdown = s.shutdown

variable {s s' s₁ : Scheduler κ} {i : Tid} {t : Thread κ} {sent : List Tid}

theorem rota_pos (s : Scheduler κ) : 0 < s.rota.length := Nat.succ_pos _

namespace Settled

theorem rota_nodup (settled : s.Settled) : s.rota.Nodup :=
  List.nodup_cons.mpr ⟨settled.current_not_queued, settled.coherent.nodup⟩

/-- The state of a thread says whether it is on the rota, and where. -/
theorem state_eq (settled : s.Settled) (slot : s.threads[i]? = some t) :
    t.state = if i = s.current then .running else if i ∈ s.rota then .ready else t.state := by
  have coh := settled.coherent
  by_cases current : i = s.current
  · obtain ⟨u, at_current, running⟩ := state?_eq_some.mp settled.runs
    rw [← current, slot, Option.some.injEq] at at_current
    rw [if_pos current, at_current, running]
  · rw [if_neg current]
    by_cases mem : i ∈ s.rota
    · have queued := (List.mem_cons.mp mem).resolve_left current
      rw [if_pos mem, (coh.slots i t slot).queued.mpr queued]
    · rw [if_neg mem]

/-- With nobody to be woken, the line is the queue and then the running thread. -/
theorem line_eq (settled : s.Settled) (early : s.Undisturbed (s.total + 1)) :
    s.line = s.ready.toList ++ [s.current] := by
  have nobody : wokenBy s.total s.threads = [] := by
    refine List.eq_nil_iff_forall_not_mem.mpr fun i mem => ?_
    obtain ⟨t, there, due, _⟩ := mem_wokenBy.mp mem
    obtain ⟨j, slot⟩ := List.getElem?_of_mem there
    obtain ⟨_, reached, asleep⟩ := (t.isDue_iff s.total).mp due
    have later := early j t slot asleep
    omega
  rw [line, nobody, List.append_nil, preempted, if_pos settled.runs]

end Settled

/-- An undisturbed decision moves the rota on by one place. -/
theorem Settled.tick (settled : s.Settled) (inWord : s.total < wordMax)
    (early : s.Undisturbed (s.total + 1))
    (counted : ∀ (i : Tid) (t : Thread κ), s.threads[i]? = some t → t.quanta ≤ s.total) :
    ∃ switch s', s.schedule = .ok (switch, s') ∧ s.Rotated [switch.target] s' := by
  have coh := settled.coherent
  rcases coh.schedule_cases with ⟨switch, s', decided, dec, parked⟩ | ⟨full, _⟩
  · refine ⟨switch, s', decided, ?_⟩
    have rota : s'.rota = s.rota.rotate 1 := by
      have line := dec.line
      rw [settled.line_eq early] at line
      rw [Scheduler.rota, Scheduler.rota, dec.current, ← line, List.rotate_cons_succ,
        List.rotate_zero]
    refine ⟨dec.settled coh (parked.trans settled.parked), rota, ?_, ?_, dec.total, dec.shutdown⟩
    · intro k one
      obtain rfl : k = 0 := by simpa using one
      have first := List.getElem?_rotate (n := 1) s.rota_pos
      rw [← rota, Nat.zero_add] at first
      rw [Nat.zero_add, ← first]
      simp [Scheduler.rota, dec.current]
    · intro i
      cases slot : s.threads[i]? with
      | none => simp [dec.slots, slot]
      | some t =>
        obtain ⟨u, after, turned⟩ := dec.slot_cases coh slot
        have few := counted i t slot
        have state := settled.state_eq slot
        have early : ¬ t.isDue s.total := fun due => by
          obtain ⟨_, reached, asleep⟩ := (t.isDue_iff s.total).mp due
          have later := early i t slot asleep
          omega
        rw [after, Option.map_some, Option.some.injEq, dec.current]
        cases turned with
        | picked here waited =>
          have awake : t.wakeAt = 0 := by
            have deadline := (coh.slots i t slot).deadline
            rcases waited with h | ⟨due, _⟩ | h
            · simpa [h] using deadline
            · exact absurd due early
            · simpa [h] using deadline
          -- Nobody has had more turns than the counter says, and the counter still has room.
          have more : addSaturating t.quanta 1 = t.quanta + 1 := by
            unfold addSaturating
            omega
          simp [here, more, awake]
        | requeued other running =>
          have current := (coh.slots i t slot).running running
          have mem : i ∈ s.rota := current ▸ List.mem_cons_self
          simp [other, Ne.symm other, mem]
        | woken _ due | heldBack _ due => exact absurd due early
        | untouched other resting =>
          have away : i ≠ s.current := by
            rintro rfl
            rw [if_pos rfl] at state
            exact resting state
          rw [if_neg away] at state
          simp [other, Ne.symm other, ← state]
  · omega

theorem Rotated.refl (settled : s.Settled) : s.Rotated [] s where
  settled := settled
  rota := (List.rotate_zero _).symm
  order := fun _ none => absurd none (Nat.not_lt_zero _)
  slots := by
    intro i
    cases slot : s.threads[i]? with
    | none => rfl
    | some t => simp [← settled.state_eq slot]
  total := rfl
  shutdown := rfl

/-- One decision and then others. -/
theorem Rotated.cons {target : Tid} (first : s.Rotated [target] s₁) (others : s₁.Rotated sent s') :
    s.Rotated (target :: sent) s' where
  settled := others.settled
  rota := by
    rw [others.rota, first.rota, List.rotate_rotate, List.length_singleton, List.length_cons,
      Nat.add_comm]
  order := by
    intro k inside
    cases k with
    | zero => simpa using first.order 0 (by simp)
    | succ k =>
      have later := others.order k (by simpa using inside)
      have place : (k + 1) % s.rota.length < s.rota.length := Nat.mod_lt _ s.rota_pos
      rw [first.rota, List.length_rotate, List.length_singleton, List.getElem?_rotate place,
        Nat.mod_add_mod] at later
      rw [List.getElem?_cons_succ, later]
  slots := by
    intro i
    have mem : i ∈ s₁.rota ↔ i ∈ s.rota := by rw [first.rota, List.mem_rotate]
    rw [others.slots, first.slots, Option.map_map]
    cases s.threads[i]? with
    | none => rfl
    | some t =>
      simp only [Option.map_some, Function.comp_apply, mem, Option.some.injEq, Thread.mk.injEq,
        true_and, and_true]
      constructor
      · by_cases away : i ∈ s.rota
        · simp [away]
        · have other : i ≠ s₁.current := fun same =>
            away (mem.mp (same ▸ List.mem_cons_self))
          simp [away, other]
      · rw [List.count_singleton, List.count_cons]
        omega
  total := by
    rw [others.total, first.total, List.length_singleton, List.length_cons]
    omega
  shutdown := others.shutdown.trans first.shutdown

/-- Sleepers are not on the rota, so they are left alone. -/
theorem Rotated.undisturbed (rotated : s.Rotated sent s') {horizon : Nat}
    (early : s.Undisturbed horizon) : s'.Undisturbed horizon := by
  intro i u slot asleep
  rw [rotated.slots] at slot
  obtain ⟨t, before, rfl⟩ := Option.map_eq_some_iff.mp slot
  refine early i t before ?_
  simp only at asleep
  split at asleep
  · simp at asleep
  · split at asleep
    · simp at asleep
    · exact asleep

theorem Rotated.counted (rotated : s.Rotated sent s')
    (counted : ∀ (i : Tid) (t : Thread κ), s.threads[i]? = some t → t.quanta ≤ s.total) :
    ∀ (i : Tid) (t : Thread κ), s'.threads[i]? = some t → t.quanta ≤ s'.total := by
  intro i u slot
  rw [rotated.slots] at slot
  obtain ⟨t, before, rfl⟩ := Option.map_eq_some_iff.mp slot
  have few := counted i t before
  have part : sent.count i ≤ sent.length := List.count_le_length
  rw [rotated.total]
  show t.quanta + sent.count i ≤ s.total + sent.length
  omega

/-- Undisturbed decisions move the rota on by one place each. -/
theorem Settled.ticks (settled : s.Settled) (n : Nat) (inWord : s.total + n ≤ wordMax)
    (early : s.Undisturbed (s.total + n))
    (counted : ∀ (i : Tid) (t : Thread κ), s.threads[i]? = some t → t.quanta ≤ s.total) :
    ∃ switches s', Scheduler.ticks n s = .ok (switches, s') ∧ switches.length = n ∧
      s.Rotated (switches.map Switch.target) s' := by
  -- All that one decision needs is still there after it: deadlines do not move, and the counter
  -- grows as fast as anybody's turns.
  induction n generalizing s with
  | zero => exact ⟨[], s, rfl, rfl, .refl settled⟩
  | succ n ih =>
    have soon : s.Undisturbed (s.total + 1) := fun i t slot asleep => by
      have later := early i t slot asleep
      omega
    obtain ⟨switch, s₁, decided, first⟩ := settled.tick (by omega) soon counted
    have total : s₁.total = s.total + 1 := first.total
    obtain ⟨switches, s', others, length, rotated⟩ :=
      ih first.settled (by omega)
        (by rw [total, Nat.add_assoc, Nat.add_comm 1 n]; exact first.undisturbed early)
        (first.counted counted)
    refine ⟨switch :: switches, s', ?_, by rw [List.length_cons, length], first.cons rotated⟩
    simp [Scheduler.ticks, decided, others]

/-- A whole round: everybody on the rota has been sent once, the running thread last. -/
theorem Rotated.round (rotated : s.Rotated sent s') (whole : sent.length = s.rota.length) :
    sent = s.rota.rotate 1 := by
  apply List.ext_getElem?
  intro k
  by_cases inside : k < sent.length
  · rw [rotated.order k inside, List.getElem?_rotate (whole ▸ inside)]
  · rw [List.getElem?_eq_none (Nat.le_of_not_lt inside), List.getElem?_eq_none]
    rw [List.length_rotate]
    omega

/-- A round of turns. From any state of a disciplined run, while no sleeper's time comes, the i-th of
as many decisions as the rota has members goes to the member i places behind the running thread. The
round ends with the same thread running, the same queue and the same table, but that every member of
the rota has had one turn more. -/
theorem round_restores_order (capacity : Nat) (one : 1 ≤ capacity) (fits : capacity < 2 ^ 60)
    (prime : Tid → Stack → Option κ) :
    ∃ start : Bench κ, Bench.new capacity = .ok start ∧
      ∀ steps b, Run prime start steps b →
        ∀ r, r = b.scheduler.rota.length → b.scheduler.total + r < 2 ^ 64 →
          (∀ (i : Tid) (t : Thread κ), b.scheduler.threads[i]? = some t → t.state.isSleeping →
            ¬ t.wakeAt < b.scheduler.total + r) →
          ∃ switches s', ticks r b.scheduler = .ok (switches, s') ∧ switches.length = r ∧
            (∀ i, 1 ≤ i → i ≤ r →
              switches[i - 1]?.map Switch.target = b.scheduler.rota[i % r]?) ∧
            s'.current = b.scheduler.current ∧
            s'.ready.toList = b.scheduler.ready.toList ∧
            (∀ i : Tid, s'.threads[i]? = b.scheduler.threads[i]?.map fun t =>
              if i ∈ b.scheduler.rota then { t with quanta := t.quanta + 1 } else t) ∧
            s'.total = b.scheduler.total + r ∧ s'.shutdown = b.scheduler.shutdown := by
  obtain ⟨start, new, fresh, _⟩ := new_settled one fits
  refine ⟨start, new, fun steps b run r size inWord late => ?_⟩
  subst size
  have settled := run.settled fresh
  have early : b.scheduler.Undisturbed (b.scheduler.total + b.scheduler.rota.length) :=
    fun i t slot asleep => Nat.le_of_not_lt (late i t slot asleep)
  obtain ⟨switches, s', ticked, length, rotated⟩ := settled.ticks b.scheduler.rota.length
    (by unfold wordMax; omega) early fun i t slot => run.quanta_le one fits new slot
  have whole : (switches.map Switch.target).length = b.scheduler.rota.length := by
    rw [List.length_map, length]
  have rota := rotated.rota
  rw [whole, List.rotate_length] at rota
  obtain ⟨current, queue⟩ := List.cons.inj rota
  have round := rotated.round whole
  refine ⟨switches, s', ticked, length, ?_, current, queue, ?_, by rw [rotated.total, whole],
    rotated.shutdown⟩
  · intro i first last
    have order := rotated.order (i - 1) (by omega)
    rwa [List.getElem?_map, Nat.sub_add_cancel first] at order
  · intro i
    rw [rotated.slots, current, round, (List.rotate_perm _ 1).count_eq]
    cases slot : b.scheduler.threads[i]? with
    | none => rfl
    | some t =>
      rw [Option.map_some, Option.map_some, ← settled.state_eq slot]
      by_cases member : i ∈ b.scheduler.rota
      · rw [List.count_eq_one_of_mem settled.rota_nodup member, if_pos member]
      · rw [List.count_eq_zero.mpr member, if_neg member]
        rfl

/-- Three take turns while thread 3 is blocked and thread 4 sleeps until the counter stands at 14. -/
theorem round_restores_order_three :
    ∃ (start : Bench Unit) (steps : List (Step Unit)) (b : Bench Unit) (switches : List Switch)
      (s' : Scheduler Unit),
      1 ≤ 5 ∧ 5 < 2 ^ 60 ∧ Bench.new 5 = .ok start ∧ Run (fun _ _ => none) start steps b ∧
        b.scheduler.rota = [0, 1, 2] ∧ b.scheduler.total = 5 ∧
        b.scheduler.state? 3 = some .blocked ∧ b.scheduler.state? 4 = some .sleeping ∧
        (∀ (i : Tid) (t : Thread Unit), b.scheduler.threads[i]? = some t → t.state.isSleeping →
          ¬ t.wakeAt < b.scheduler.total + 3) ∧
        ticks 3 b.scheduler = .ok (switches, s') ∧
        switches[0]?.map Switch.target = some 1 ∧ switches[1]?.map Switch.target = some 2 ∧
        switches[2]?.map Switch.target = some 0 ∧ s'.rota = [0, 1, 2] ∧ s'.total = 8 := by
  obtain ⟨start, new, all⟩ :=
    round_restores_order (κ := Unit) 5 (by decide) (by decide) fun _ _ => none
  obtain ⟨steps, b, performed, rota, total, blocked, asleep, deadlines⟩ :
    ∃ (steps : List (Step Unit)) (b : Bench Unit),
      perform (fun _ _ => none) 5
          [.spawn (some 6) 4096 (mapAt 65536), .spawn (some 7) 4096 (mapAt 131072),
            .spawn (some 8) 4096 (mapAt 196608), .spawn (some 9) 4096 (mapAt 262144), .block 3,
            .schedule, .schedule, .schedule, .sleep 10] = .ok (steps, b) ∧
        b.scheduler.rota = [0, 1, 2] ∧ b.scheduler.total = 5 ∧
        b.scheduler.state? 3 = some .blocked ∧ b.scheduler.state? 4 = some .sleeping ∧
        ∀ t ∈ b.scheduler.threads, t.state.isSleeping → t.wakeAt = 14 :=
    ⟨_, _, rfl, rfl, rfl, rfl, rfl, by decide⟩
  have run := perform_run new _ (by decide) performed
  have late : ∀ (i : Tid) (t : Thread Unit), b.scheduler.threads[i]? = some t →
      t.state.isSleeping → ¬ t.wakeAt < b.scheduler.total + 3 := by
    intro i t slot sleeps
    rw [deadlines t (List.mem_of_getElem? slot) sleeps, total]
    decide
  obtain ⟨switches, s', ticked, _, order, current, queue, _, after, _⟩ :=
    all steps b run 3 (by rw [rota]; rfl) (by rw [total]; decide) late
  refine ⟨start, steps, b, switches, s', by decide, by decide, new, run, rota, total, blocked,
    asleep, late, ticked, ?_, ?_, ?_, ?_, by rw [after, total]⟩
  · simpa [rota] using order 1 (by decide) (by decide)
  · simpa [rota] using order 2 (by decide) (by decide)
  · simpa [rota] using order 3 (by decide) (by decide)
  · rw [← rota, Scheduler.rota, Scheduler.rota, current, queue]

end RoundRobin.Scheduler
