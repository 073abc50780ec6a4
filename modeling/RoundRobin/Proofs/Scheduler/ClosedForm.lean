import RoundRobin.Proofs.Scheduler.Careless

/-!
# A decision in closed form

Whom a decision picks and what it leaves behind can be read off the table and the queue before it.
The candidates are the queue, then the sleepers whose time has come in ascending order, then the
running thread. The first candidate gets the processor and the others are the new queue. Where there
are none, or more than the queue holds, the library gives up.

Nothing is said about how the table came about, so the statement also covers the states that only a
careless caller reaches: a thread that is queued and asleep, or a current thread that does not run.
-/

namespace RoundRobin.Scheduler

variable {κ : Type}

def expiring (s : Scheduler κ) (state : ThreadState) : List Tid :=
  (List.range s.threads.length).filter fun i =>
    s.threads[i]?.any fun t => t.state == state && 0 < t.wakeAt && t.wakeAt ≤ s.total

/-- Everybody who can be picked, in the order in which they would be. -/
def candidates (s : Scheduler κ) : List Tid :=
  s.ready.toList ++ s.expiring .sleeping ++ s.preempted

/-- What becomes of the thread in slot `i` before anybody is picked. -/
def readied (s : Scheduler κ) (i : Tid) (t : Thread κ) : Thread κ :=
  if i ∈ s.expiring .sleeping then { t with state := .ready, wakeAt := 0 }
  else if i ∈ s.expiring .sleepBlocked then { t with state := .blocked, wakeAt := 0 }
  else if i ∈ s.preempted then { t with state := .ready }
  else t

def dispatched (s : Scheduler κ) (target i : Tid) (t : Thread κ) : Thread κ :=
  if i = target then
    { s.readied i t with state := .running, quanta := addSaturating t.quanta 1 }
  else s.readied i t

variable {s : Scheduler κ} {i : Tid} {t : Thread κ} {state : ThreadState}

theorem mem_expiring_iff :
    i ∈ s.expiring state ↔
      ∃ t, s.threads[i]? = some t ∧ t.state = state ∧ 0 < t.wakeAt ∧ t.wakeAt ≤ s.total := by
  constructor
  · intro mem
    obtain ⟨_, found⟩ := List.mem_filter.mp mem
    cases slot : s.threads[i]? with
    | none => simp [slot] at found
    | some t =>
      simp only [slot, Option.any_some, Bool.and_eq_true, beq_iff_eq, decide_eq_true_eq] at found
      exact ⟨t, rfl, found.1.1, found.1.2, found.2⟩
  · rintro ⟨t, slot, asleep, set, reached⟩
    have inside := (List.getElem?_eq_some_iff.mp slot).1
    refine List.mem_filter.mpr ⟨List.mem_range.mpr inside, ?_⟩
    simp [slot, asleep, set, reached]

theorem mem_expiring (slot : s.threads[i]? = some t) :
    i ∈ s.expiring state ↔ t.state = state ∧ 0 < t.wakeAt ∧ t.wakeAt ≤ s.total := by
  rw [mem_expiring_iff]
  constructor
  · rintro ⟨u, slot', holds⟩
    obtain rfl := Option.some.inj (slot.symm.trans slot')
    exact holds
  · intro holds
    exact ⟨t, slot, holds⟩

theorem mem_preempted (slot : s.threads[i]? = some t) :
    i ∈ s.preempted ↔ i = s.current ∧ t.state = .running := by
  unfold preempted
  constructor
  · intro mem
    split at mem
    · next running =>
      obtain rfl := List.mem_singleton.mp mem
      simpa [state?, slot] using running
    · exact absurd mem List.not_mem_nil
  · rintro ⟨rfl, running⟩
    simp [state?, slot, running]

/-- In a table that is numbered in order, the sleepers to be woken are listed in ascending order. -/
theorem Formed.wokenBy_eq (formed : s.Formed) :
    wokenBy s.total s.threads = s.expiring .sleeping := by
  rw [wokenBy, expiring, ← formed.map_tid, List.filter_map]
  congr 1
  apply List.filter_congr
  intro t mem
  obtain ⟨i, slot⟩ := List.getElem?_of_mem mem
  have here : s.threads[t.tid]? = some t := by rwa [formed.numbered i t slot]
  rw [Bool.eq_iff_iff]
  simp only [Function.comp_apply, here, Option.any_some, Bool.and_eq_true, beq_iff_eq,
    decide_eq_true_eq, Thread.isDue_iff, ThreadState.isSleeping_iff]
  constructor
  · rintro ⟨⟨set, reached, _⟩, asleep⟩
    exact ⟨⟨asleep, Nat.pos_of_ne_zero set⟩, reached⟩
  · rintro ⟨⟨asleep, set⟩, reached⟩
    exact ⟨⟨Nat.ne_of_gt set, reached, .inl asleep⟩, asleep⟩

theorem Formed.candidates_eq (formed : s.Formed) : s.candidates = s.line := by
  rw [candidates, line, formed.wokenBy_eq]

/-- The three ways in which a thread can be readied exclude each other, so their order is of no
account. -/
theorem readied_eq (slot : s.threads[i]? = some t) :
    s.readied i t =
      if i = s.current ∧ t.state = .running then (t.expired s.total).markReady
      else t.expired s.total := by
  unfold readied
  simp only [mem_expiring slot, mem_preempted slot]
  by_cases due : t.isDue s.total
  · obtain ⟨set, reached, _⟩ := (t.isDue_iff s.total).mp due
    have positive := Nat.pos_of_ne_zero set
    rcases Thread.asleep_of_due due with asleep | asleep
    · simp [asleep, positive, reached, Thread.expired_of_sleeping due asleep]
    · simp [asleep, positive, reached, Thread.expired_of_sleepBlocked due asleep]
  · have early : ∀ asleep, ThreadState.isSleeping asleep →
        ¬ (t.state = asleep ∧ 0 < t.wakeAt ∧ t.wakeAt ≤ s.total) := by
      rintro asleep sleeps ⟨rfl, set, reached⟩
      exact due ((t.isDue_iff s.total).mpr ⟨Nat.ne_of_gt set, reached, sleeps⟩)
    rw [if_neg (early .sleeping rfl), if_neg (early .sleepBlocked rfl),
      Thread.expired_of_not_due due]
    rfl

theorem turn_eq_dispatched (target : Tid) (slot : s.threads[i]? = some t) :
    s.turn target i t = s.dispatched target i t := by
  obtain ⟨awake, deadline, expired, _⟩ := t.expired_eq s.total
  unfold turn dispatched
  rw [readied_eq slot, expired]
  by_cases running : i = s.current ∧ t.state = .running
  · simp only [if_pos running]
    rfl
  · simp only [if_neg running]
    rfl

/-- What a decision leaves behind, as one equation. -/
theorem Decision.after_eq {switch : Switch} {s' : Scheduler κ} (dec : s.Decision switch s')
    (parked : s'.parked = s.parked) :
    s' =
      { s with
        threads := s.threads.mapIdx (s.dispatched switch.target)
        ready := s'.ready
        current := switch.target
        total := s.total + 1 } := by
  have threads : s'.threads = s.threads.mapIdx (s.dispatched switch.target) := by
    apply List.ext_getElem?
    intro i
    rw [dec.slots, List.getElem?_mapIdx]
    cases slot : s.threads[i]? with
    | none => rfl
    | some t => rw [Option.map_some, Option.map_some, turn_eq_dispatched switch.target slot]
  have current := dec.current
  have total := dec.total
  have shutdown := dec.shutdown
  cases s'
  simp_all

/-- A sleeper who is blocked as well is not put into the queue. -/
theorem count_candidates (mem : i ∈ s.expiring .sleepBlocked) :
    s.candidates.count i = s.ready.toList.count i := by
  obtain ⟨t, slot, blocked, _⟩ := mem_expiring_iff.mp mem
  have notWoken : i ∉ s.expiring .sleeping := by
    rw [mem_expiring slot]
    simp [blocked]
  have notPreempted : i ∉ s.preempted := by
    rw [mem_preempted slot]
    simp [blocked]
  rw [candidates, List.count_append, List.count_append, List.count_eq_zero.mpr notWoken,
    List.count_eq_zero.mpr notPreempted]
  rfl

/-- What one decision does, whatever the state of the table. It gives up, in one wording, exactly if
the candidates are more than the queue holds, and in the other exactly if there are none. Otherwise
the first candidate is picked and the others are the queue; the counter is one further; whoever was
asleep and is due is ready, or blocked if it was blocked as well and then it is not queued; whoever
was running is ready; and then the thread that is picked runs and has one turn more. Nothing else
changes. -/
theorem decision_in_closed_form (s : Scheduler κ) (formed : s.Formed)
    (inWord : s.total < wordMax) :
    ((∃ a, s.schedule = .error (.abort a) ∧ a.message = "ready queue overflow") ↔
      s.threads.length < s.candidates.length) ∧
    ((∃ a, s.schedule = .error (.abort a) ∧
        a.message = "scheduler invoked with an empty ready queue") ↔
      s.candidates = []) ∧
    (∀ target rest, s.candidates = target :: rest → s.candidates.length ≤ s.threads.length →
      ∃ ready : ReadyQueue,
        s.schedule = .ok (⟨s.current, target⟩,
          { s with
            threads := s.threads.mapIdx (s.dispatched target)
            ready
            current := target
            total := s.total + 1 }) ∧
        ready.Holds s.threads.length rest) ∧
    ∀ i ∈ s.expiring .sleepBlocked, s.candidates.count i = s.ready.toList.count i := by
  rw [formed.candidates_eq]
  have crowded := formed.schedule_crowded inWord
  have nobody := formed.schedule_nobody inWord
  refine ⟨⟨?_, fun more => ⟨_, crowded more, rfl⟩⟩, ⟨?_, fun none => ⟨_, nobody none, rfl⟩⟩, ?_, ?_⟩
  · rintro ⟨a, aborted, text⟩
    by_contra fits
    cases line : s.line with
    | nil =>
      rw [nobody line, Except.error.injEq, Halt.abort.injEq] at aborted
      subst aborted
      exact absurd text (by decide)
    | cons target rest =>
      obtain ⟨s', decided, _⟩ := schedule_eq formed inWord line (Nat.le_of_not_lt fits)
      simp [decided] at aborted
  · rintro ⟨a, aborted, text⟩
    by_cases more : s.threads.length < s.line.length
    · rw [crowded more, Except.error.injEq, Halt.abort.injEq] at aborted
      subst aborted
      exact absurd text (by decide)
    · cases line : s.line with
      | nil => rfl
      | cons target rest =>
        obtain ⟨s', decided, _⟩ := schedule_eq formed inWord line (Nat.le_of_not_lt more)
        simp [decided] at aborted
  · intro target rest line fits
    obtain ⟨s', decided, dec, parked⟩ := schedule_eq formed inWord line fits
    refine ⟨s'.ready, by rw [decided, ← dec.after_eq parked], ?_⟩
    obtain rfl : rest = s'.ready.toList := (List.cons.inj (line.symm.trans dec.line)).2
    exact dec.ring
  · intro i mem
    rw [← formed.candidates_eq]
    exact count_candidates mem

/-- Careless callers. In the first session thread 1 was blocked and lifted without giving up the
processor, so that it is queued, asleep and blocked at once, and it is picked; thread 2 is due and
the main thread is preempted. In the second session thread 1 is queued twice, and the queue is full
while the main thread runs. In the third the table was torn down under a running thread. -/
theorem decision_in_closed_form_misused :
    (∃ (moves : List (Move Unit)) (b : Bench Unit),
      playFresh (fun _ _ => none) 3
          [.spawn (some 7) 4096 (mapAt 65536), .spawn (some 8) 4096 (mapAt 131072), .schedule,
            .schedule, .sleep 3, .schedule, .schedule, .block 1, .resume 1, .sleep 1, .block 1,
            .schedule] = .ok (moves, b) ∧
        b.scheduler.Formed ∧ b.scheduler.total < wordMax ∧ b.scheduler.candidates = [1, 2, 0] ∧
        ∃ ready : ReadyQueue,
          b.scheduler.schedule = .ok (⟨0, 1⟩,
            { b.scheduler with
              threads :=
                [⟨0, .ready, none, none, none, 3, 0⟩,
                  ⟨1, .running, none, some ⟨65536, 8192⟩, some 7, 3, 0⟩,
                  ⟨2, .ready, none, some ⟨131072, 8192⟩, some 8, 1, 0⟩]
              ready
              current := 1
              total := 7 }) ∧
          ready.Holds 3 [2, 0]) ∧
    (∃ (moves : List (Move Unit)) (b : Bench Unit),
      playFresh (fun _ _ => none) 3
          [.spawn (some 7) 4096 (mapAt 65536), .schedule, .block 1, .resume 1, .block 1, .resume 1,
            .schedule, .spawn (some 8) 4096 (mapAt 131072)] = .ok (moves, b) ∧
        b.scheduler.Formed ∧ b.scheduler.total < wordMax ∧
        b.scheduler.candidates = [1, 1, 2, 0] ∧
        ∃ a, b.scheduler.schedule = .error (.abort a) ∧ a.message = "ready queue overflow") ∧
    ∃ (moves : List (Move Unit)) (b : Bench Unit),
      playFresh (fun _ _ => none) 2
          [.spawn (some 7) 4096 (mapAt 65536), .schedule, .releaseAll] = .ok (moves, b) ∧
        b.scheduler.Formed ∧ b.scheduler.total < wordMax ∧ b.scheduler.candidates = [] ∧
        ∃ a, b.scheduler.schedule = .error (.abort a) ∧
          a.message = "scheduler invoked with an empty ready queue" := by
  have session : ∀ {capacity : Nat} {ops : List Op} {P : Bench Unit → Prop},
      1 ≤ capacity → capacity < 2 ^ 60 →
      (∃ moves b, playFresh (fun _ _ => none) capacity ops = .ok (moves, b) ∧
        (b.scheduler.Formed → P b)) →
      ∃ moves b, playFresh (fun _ _ => none) capacity ops = .ok (moves, b) ∧
        b.scheduler.Formed ∧ P b := by
    rintro capacity ops P one fits ⟨moves, b, played, holds⟩
    obtain ⟨start, new, _, settled, _⟩ := new_scheduler (κ := Unit) one fits
    have formed := (playFresh_moves new ops played).formed settled.coherent.formed
    exact ⟨moves, b, played, formed, holds formed⟩
  refine ⟨session (by decide) (by decide) ⟨_, _, rfl, fun formed => ?_⟩,
    session (by decide) (by decide) ⟨_, _, rfl, fun formed => ?_⟩,
    session (by decide) (by decide) ⟨_, _, rfl, fun formed => ?_⟩⟩
  · have closed := decision_in_closed_form _ formed (by decide)
    exact ⟨by decide, rfl, closed.2.2.1 1 [2, 0] rfl (by decide)⟩
  · have closed := decision_in_closed_form _ formed (by decide)
    exact ⟨by decide, rfl, closed.1.mpr (by decide)⟩
  · have closed := decision_in_closed_form _ formed (by decide)
    exact ⟨by decide, rfl, closed.2.1.mpr rfl⟩

end RoundRobin.Scheduler
