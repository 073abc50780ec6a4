import RoundRobin.Scheduler.Basic
import RoundRobin.Proofs.ReadyQueue

/-!
# What a decision does

A decision is described on the table and on the line: the ready queue, then the threads that the
decision wakes, then the outgoing thread if it was preempted. The front of the line gets the
processor and the rest is the new queue. Slot by slot, `turn` says what becomes of a thread.

Nothing is assumed about the states of the threads here. A table whose slots carry their own
numbers and a queue of numbers that exist are enough.
-/

namespace RoundRobin

@[simp]
theorem ThreadState.isSleeping_iff (state : ThreadState) :
    state.isSleeping ↔ state = .sleeping ∨ state = .sleepBlocked := by
  cases state <;> simp [isSleeping]

namespace Thread

variable {κ : Type}

def expired (now : Nat) (t : Thread κ) : Thread κ := if t.isDue now then t.wake.2 else t

theorem isDue_iff (t : Thread κ) (now : Nat) :
    t.isDue now ↔ t.wakeAt ≠ 0 ∧ t.wakeAt ≤ now ∧ t.state.isSleeping := by
  simp [isDue, and_assoc]

theorem expired_of_not_due {t : Thread κ} {now : Nat} (h : ¬ t.isDue now) : t.expired now = t :=
  if_neg h

theorem expired_of_sleeping {t : Thread κ} {now : Nat} (due : t.isDue now)
    (asleep : t.state = .sleeping) : t.expired now = { t with state := .ready, wakeAt := 0 } := by
  simp [expired, due, wake, asleep]

theorem expired_of_sleepBlocked {t : Thread κ} {now : Nat} (due : t.isDue now)
    (asleep : t.state = .sleepBlocked) :
    t.expired now = { t with state := .blocked, wakeAt := 0 } := by
  simp [expired, due, wake, asleep]

/-- A due thread was asleep, one way or the other. -/
theorem asleep_of_due {t : Thread κ} {now : Nat} (due : t.isDue now) :
    t.state = .sleeping ∨ t.state = .sleepBlocked :=
  (ThreadState.isSleeping_iff t.state).mp ((t.isDue_iff now).mp due).2.2

/-- A sleeper that is not due has time left. -/
theorem lt_wakeAt_of_not_due {t : Thread κ} {now : Nat} (early : ¬ t.isDue now)
    (set : t.wakeAt ≠ 0) (asleep : t.state.isSleeping) : now < t.wakeAt := by
  rw [t.isDue_iff] at early
  by_contra late
  exact early ⟨set, Nat.le_of_not_lt late, asleep⟩

/-- Expiry touches nothing but state and deadline, and ends no thread. -/
theorem expired_eq (t : Thread κ) (now : Nat) :
    ∃ state wakeAt, t.expired now = { t with state, wakeAt } ∧
      (state = .unused ↔ t.state = .unused) := by
  by_cases due : t.isDue now
  · rcases asleep_of_due due with asleep | asleep
    · exact ⟨.ready, 0, expired_of_sleeping due asleep, by simp [asleep]⟩
    · exact ⟨.blocked, 0, expired_of_sleepBlocked due asleep, by simp [asleep]⟩
  · exact ⟨t.state, t.wakeAt, expired_of_not_due due, Iff.rfl⟩

/-- Expiry takes nobody off the processor and puts nobody on it. -/
theorem expired_running_iff (t : Thread κ) (now : Nat) :
    (t.expired now).state = .running ↔ t.state = .running := by
  by_cases due : t.isDue now
  · rcases asleep_of_due due with h | h
    · simp [expired_of_sleeping due h, h]
    · simp [expired_of_sleepBlocked due h, h]
  · rw [expired_of_not_due due]

end Thread

variable {κ : Type}

theorem expire_table (now : Nat) (threads : List (Thread κ)) :
    (expire now threads).2 = threads.map (Thread.expired now) := by
  induction threads with
  | nil => rfl
  | cons t rest ih =>
    by_cases due : t.isDue now
    · simp [expire, due, ih, Thread.expired]
    · simp [expire, due, ih, Thread.expired]

/-- Of the threads that an expiry wakes, those that were not blocked as well, in table order. -/
def wokenBy (now : Nat) (threads : List (Thread κ)) : List Tid :=
  (threads.filter fun t => t.isDue now && t.state == .sleeping).map Thread.tid

theorem expire_runnable (now : Nat) (threads : List (Thread κ)) :
    (expire now threads).1.filterMap Wakeup.runnable? = wokenBy now threads := by
  induction threads with
  | nil => rfl
  | cons t rest ih =>
    by_cases due : t.isDue now
    · rcases Thread.asleep_of_due due with h | h
      · simpa [expire, due, Thread.wake, h, wokenBy, Wakeup.runnable?] using ih
      · simpa [expire, due, Thread.wake, h, wokenBy, Wakeup.runnable?, List.filterMap_cons] using ih
    · simpa [expire, due, wokenBy] using ih

namespace Scheduler

/-- Slots carry their own numbers, and the current and the queued threads have slots. -/
structure Formed (s : Scheduler κ) : Prop where
  numbered : ∀ (i : Tid) (t : Thread κ), s.threads[i]? = some t → t.tid = i
  current_lt : s.current < s.threads.length
  ring : s.ready.Holds s.threads.length s.ready.toList
  queued_lt : ∀ i ∈ s.ready.toList, i < s.threads.length

def state? (s : Scheduler κ) (i : Tid) : Option ThreadState := s.threads[i]?.map Thread.state

theorem state?_eq_some {s : Scheduler κ} {i : Tid} {st : ThreadState} :
    s.state? i = some st ↔ ∃ t, s.threads[i]? = some t ∧ t.state = st :=
  Option.map_eq_some_iff

def preempted (s : Scheduler κ) : List Tid :=
  if s.state? s.current = some .running then [s.current] else []

/-- Everybody who waits for the processor when a decision is made, first come first. -/
def line (s : Scheduler κ) : List Tid :=
  s.ready.toList ++ wokenBy s.total s.threads ++ s.preempted

theorem mem_wokenBy {now : Nat} {threads : List (Thread κ)} {i : Tid} :
    i ∈ wokenBy now threads ↔
      ∃ t ∈ threads, t.isDue now ∧ t.state = .sleeping ∧ t.tid = i := by
  simp [wokenBy, and_assoc]

/-- The numbers of a table count its slots. -/
theorem Formed.map_tid {s : Scheduler κ} (formed : s.Formed) :
    s.threads.map Thread.tid = List.range s.threads.length := by
  apply List.ext_getElem
  · simp
  · intro i hi _
    rw [List.length_map] at hi
    simpa using formed.numbered i _ (List.getElem?_eq_getElem hi)

theorem Formed.line_lt {s : Scheduler κ} (formed : s.Formed) :
    ∀ i ∈ s.line, i < s.threads.length := by
  intro i hi
  rcases List.mem_append.mp hi with hi | hi
  · rcases List.mem_append.mp hi with hi | hi
    · exact formed.queued_lt i hi
    · obtain ⟨t, mem, _, _, rfl⟩ := mem_wokenBy.mp hi
      obtain ⟨j, hj, rfl⟩ := List.getElem_of_mem mem
      rwa [formed.numbered j _ (List.getElem?_eq_getElem hj)]
  · unfold preempted at hi
    split at hi
    · rw [List.mem_singleton.mp hi]
      exact formed.current_lt
    · exact absurd hi List.not_mem_nil

/-- What a decision for `target` makes of the thread in slot `i`. -/
def turn (s : Scheduler κ) (target i : Tid) (t : Thread κ) : Thread κ :=
  let woken := t.expired s.total
  let waiting := if i = s.current ∧ t.state = .running then woken.markReady else woken
  if i = target then waiting.markRunning else waiting

/-- A decision changes state and deadline of a thread, and counts a turn of the one it picks. It
ends no thread, and a blank slot stays blank unless it is picked. -/
theorem turn_eq (s : Scheduler κ) (target i : Tid) (t : Thread κ) :
    ∃ state wakeAt, s.turn target i t =
        { t with
          state
          wakeAt
          quanta := if i = target then addSaturating t.quanta 1 else t.quanta } ∧
      (state = .unused ↔ t.state = .unused ∧ i ≠ target) := by
  obtain ⟨state, wakeAt, expired, ended⟩ := t.expired_eq s.total
  unfold turn
  rw [expired]
  by_cases running : i = s.current ∧ t.state = .running
  · by_cases picked : i = target
    · exact ⟨.running, wakeAt, by simp only [if_pos running, if_pos picked]; rfl, by simp [picked]⟩
    · exact ⟨.ready, wakeAt, by simp only [if_pos running, if_neg picked]; rfl, by simp [running]⟩
  · by_cases picked : i = target
    · exact ⟨.running, wakeAt, by simp only [if_neg running, if_pos picked]; rfl, by simp [picked]⟩
    · exact ⟨state, wakeAt, by simp only [if_neg running, if_neg picked], by simp [ended, picked]⟩

/-- `s` has decided as `switch` says and is now `s'`. -/
structure Decision (s : Scheduler κ) (switch : Switch) (s' : Scheduler κ) : Prop where
  source : switch.source = s.current
  line : s.line = switch.target :: s'.ready.toList
  slots : ∀ i : Tid, s'.threads[i]? = s.threads[i]?.map (s.turn switch.target i)
  ring : s'.ready.Holds s.threads.length s'.ready.toList
  current : s'.current = switch.target
  total : s'.total = s.total + 1
  inWord : s.total < wordMax
  shutdown : s'.shutdown = s.shutdown

theorem enqueue_eq {q : ReadyQueue} {capacity : Nat} {xs : List Tid} (h : q.Holds capacity xs)
    (room : xs.length < capacity) (tid : Tid) :
    ∃ q', enqueue q tid = .ok q' ∧ q'.Holds capacity (xs ++ [tid]) := by
  obtain ⟨q', pushed, held⟩ := h.push_eq room tid
  exact ⟨q', by simp [enqueue, pushed], held⟩

theorem enqueueAll_eq {q : ReadyQueue} {capacity : Nat} {xs : List Tid} (h : q.Holds capacity xs)
    (tids : List Tid) (room : xs.length + tids.length ≤ capacity) :
    ∃ q', enqueueAll q tids = .ok q' ∧ q'.Holds capacity (xs ++ tids) := by
  induction tids generalizing q xs with
  | nil => exact ⟨q, rfl, by simpa using h⟩
  | cons tid tids ih =>
    simp only [List.length_cons] at room
    obtain ⟨q₁, first, held₁⟩ := enqueue_eq h (by omega) tid
    obtain ⟨q', others, held⟩ := ih held₁ (by simp; omega)
    exact ⟨q', by simp [enqueueAll, first, others], by simpa using held⟩

theorem enqueue_full {q : ReadyQueue} {capacity : Nat} {xs : List Tid} (h : q.Holds capacity xs)
    (full : xs.length = capacity) (tid : Tid) :
    enqueue q tid = .error (.abort .queueOverflow) := by
  rw [enqueue, h.push_full full, ok_bind]

/-- Where not all find room, the first who finds none ends the attempt. -/
theorem enqueueAll_full {q : ReadyQueue} {capacity : Nat} {xs : List Tid} (h : q.Holds capacity xs)
    (tids : List Tid) (crowded : capacity < xs.length + tids.length) :
    enqueueAll q tids = .error (.abort .queueOverflow) := by
  have fits := h.fits
  induction tids generalizing q xs with
  | nil =>
    simp only [List.length_nil] at crowded
    omega
  | cons tid tids ih =>
    simp only [List.length_cons] at crowded
    by_cases full : xs.length = capacity
    · rw [enqueueAll, enqueue_full h full, error_bind]
    · obtain ⟨q₁, first, held₁⟩ := enqueue_eq h (by omega) tid
      rw [enqueueAll, first, ok_bind]
      exact ih held₁ (by simp; omega) held₁.fits

theorem getElem?_set_map {α : Type} {xs : List α} {i : Nat} {x : α} (at_i : xs[i]? = some x)
    (f : α → α) (j : Nat) :
    (xs.set i (f x))[j]? = xs[j]?.map fun y => if j = i then f y else y := by
  obtain ⟨inside, rfl⟩ := List.getElem?_eq_some_iff.mp at_i
  by_cases same : i = j
  · subst j
    simp [inside]
  · simp [same, Ne.symm same]

theorem length_eq_of_slots {α : Type} {xs ys : List α} {f : Nat → α → α}
    (slots : ∀ i : Nat, xs[i]? = ys[i]?.map (f i)) : xs.length = ys.length := by
  have past : ∀ i, xs.length ≤ i ↔ ys.length ≤ i := by
    intro i
    rw [← List.getElem?_eq_none_iff, ← List.getElem?_eq_none_iff, slots, Option.map_eq_none_iff]
  have left := (past xs.length).mp (Nat.le_refl _)
  have right := (past ys.length).mpr (Nat.le_refl _)
  omega

/-- The table that a decision leaves before it picks anybody. -/
theorem requeueRunning_eq {q : ReadyQueue} {capacity : Nat} {xs : List Tid} (s : Scheduler κ)
    (current_lt : s.current < s.threads.length) (h : q.Holds capacity xs)
    (room : xs.length + s.preempted.length ≤ capacity) :
    ∃ threads q', requeueRunning (s.threads.map (Thread.expired s.total)) q s.current =
        .ok (threads, q') ∧ q'.Holds capacity (xs ++ s.preempted) ∧
      ∀ i : Tid, threads[i]? = s.threads[i]?.map fun t =>
        if i = s.current ∧ t.state = .running then (t.expired s.total).markReady
        else t.expired s.total := by
  obtain ⟨t, at_current⟩ : ∃ t, s.threads[s.current]? = some t :=
    ⟨_, List.getElem?_eq_getElem current_lt⟩
  have outgoing : (s.threads.map (Thread.expired s.total))[s.current]? =
      some (t.expired s.total) := by simp [at_current]
  by_cases running : t.state = .running
  · have preempted : s.preempted = [s.current] := by
      simp [Scheduler.preempted, state?, at_current, running]
    rw [preempted] at room ⊢
    have free : xs.length + 1 ≤ capacity := by simpa using room
    obtain ⟨q', pushed, held⟩ := enqueue_eq h free s.current
    refine ⟨(s.threads.map (Thread.expired s.total)).set s.current (t.expired s.total).markReady,
      q', ?_, held, ?_⟩
    · simp only [requeueRunning, Checked.get_eq_ok outgoing, ok_bind,
        (t.expired_running_iff s.total).mpr running, if_true,
        Checked.set_eq_ok (show s.current < (s.threads.map _).length by simpa using current_lt),
        pushed, pure_eq_ok]
    · intro i
      rw [getElem?_set_map outgoing Thread.markReady]
      by_cases same : i = s.current
      · subst i
        simp [at_current, running]
      · simp [same, Function.comp_def]
  · have preempted : s.preempted = [] := by simp [Scheduler.preempted, state?, at_current, running]
    have resting : ¬ (t.expired s.total).state = .running :=
      fun h => running ((t.expired_running_iff s.total).mp h)
    rw [preempted, List.append_nil]
    refine ⟨s.threads.map (Thread.expired s.total), q, ?_, h, ?_⟩
    · simp only [requeueRunning, Checked.get_eq_ok outgoing, ok_bind, resting, if_false, pure_eq_ok]
    · intro i
      by_cases same : i = s.current
      · subst i
        simp [at_current, running]
      · simp [same]

theorem requeueRunning_full {q : ReadyQueue} {capacity : Nat} {xs : List Tid} (s : Scheduler κ)
    (h : q.Holds capacity xs) (crowded : capacity < xs.length + s.preempted.length) :
    requeueRunning (s.threads.map (Thread.expired s.total)) q s.current =
      .error (.abort .queueOverflow) := by
  have fits := h.fits
  by_cases running : s.state? s.current = some .running
  · have preempted : s.preempted = [s.current] := if_pos running
    have full : xs.length = capacity := by
      rw [preempted, List.length_singleton] at crowded
      omega
    obtain ⟨t, at_current, runs⟩ := Option.map_eq_some_iff.mp running
    have outgoing : (s.threads.map (Thread.expired s.total))[s.current]? =
        some (t.expired s.total) := by simp [at_current]
    have inside := (List.getElem?_eq_some_iff.mp outgoing).1
    simp only [requeueRunning, Checked.get_eq_ok outgoing, ok_bind,
      (t.expired_running_iff s.total).mpr runs, if_true, Checked.set_eq_ok inside,
      enqueue_full h full, error_bind]
  · have preempted : s.preempted = [] := if_neg running
    rw [preempted, List.length_nil] at crowded
    omega

/-- A decision with somebody in line, no more than there are slots, goes to the front of the
line. -/
theorem schedule_eq {s : Scheduler κ} (formed : s.Formed) (inWord : s.total < wordMax)
    {target : Tid} {rest : List Tid} (line : s.line = target :: rest)
    (room : s.line.length ≤ s.threads.length) :
    ∃ s', s.schedule = .ok (⟨s.current, target⟩, s') ∧ s.Decision ⟨s.current, target⟩ s' ∧
      s'.parked = s.parked := by
  have counted : s.ready.toList.length + (wokenBy s.total s.threads).length + s.preempted.length ≤
      s.threads.length := by simpa [Scheduler.line, Nat.add_assoc] using room
  obtain ⟨q₁, woken, held₁⟩ := enqueueAll_eq formed.ring (wokenBy s.total s.threads) (by omega)
  obtain ⟨threads, q₂, requeued, held₂, slots⟩ :=
    requeueRunning_eq s formed.current_lt held₁ (by simpa using counted)
  rw [← Scheduler.line, line] at held₂
  obtain ⟨q₃, popped, held₃⟩ := held₂.pop_cons
  have size := length_eq_of_slots slots
  have target_lt : target < threads.length := by
    rw [size]
    exact formed.line_lt target (by simp [line])
  obtain ⟨t, at_target⟩ : ∃ t, threads[target]? = some t :=
    ⟨_, List.getElem?_eq_getElem target_lt⟩
  refine ⟨{ s with
    threads := threads.set target t.markRunning
    ready := q₃
    total := s.total + 1
    current := target }, ?_, ?_, rfl⟩
  · have counter : Checked.add s.total 1 = .ok (s.total + 1) := Checked.add_eq_ok inWord
    simp [schedule, expire_table, expire_runnable, woken, counter, requeued, popped,
      Checked.get_eq_ok at_target, Checked.set_eq_ok target_lt]
  · refine ⟨rfl, by simpa [held₃.toList_eq] using line, ?_, by rwa [held₃.toList_eq], rfl, rfl,
      inWord, rfl⟩
    intro i
    rw [getElem?_set_map at_target, slots, Option.map_map]
    rfl

theorem line_length (s : Scheduler κ) :
    s.line.length =
      s.ready.toList.length + (wokenBy s.total s.threads).length + s.preempted.length := by
  simp [line, Nat.add_assoc]

/-- Sleepers who find no room when they wake end the attempt before the counter is looked at. -/
theorem Formed.schedule_woken_full {s : Scheduler κ} (formed : s.Formed)
    (crowded : s.threads.length < s.ready.toList.length + (wokenBy s.total s.threads).length) :
    s.schedule = .error (.abort .queueOverflow) := by
  have refused := enqueueAll_full formed.ring (wokenBy s.total s.threads) crowded
  simp [schedule, expire_runnable, refused]

theorem Formed.schedule_crowded {s : Scheduler κ} (formed : s.Formed) (inWord : s.total < wordMax)
    (crowded : s.threads.length < s.line.length) :
    s.schedule = .error (.abort .queueOverflow) := by
  have length := s.line_length
  by_cases woken : s.threads.length < s.ready.toList.length + (wokenBy s.total s.threads).length
  · exact formed.schedule_woken_full woken
  · obtain ⟨q₁, woken, held₁⟩ :=
      enqueueAll_eq formed.ring (wokenBy s.total s.threads) (by omega)
    have counter : Checked.add s.total 1 = .ok (s.total + 1) := Checked.add_eq_ok inWord
    have refused := requeueRunning_full s held₁ (by simp; omega)
    simp [schedule, expire_table, expire_runnable, woken, counter, refused]

theorem Formed.schedule_nobody {s : Scheduler κ} (formed : s.Formed) (inWord : s.total < wordMax)
    (nobody : s.line = []) : s.schedule = .error (.abort .emptyQueue) := by
  have length := s.line_length
  rw [nobody, List.length_nil] at length
  obtain ⟨q₁, woken, held₁⟩ := enqueueAll_eq formed.ring (wokenBy s.total s.threads) (by omega)
  have counter : Checked.add s.total 1 = .ok (s.total + 1) := Checked.add_eq_ok inWord
  obtain ⟨threads, q₂, requeued, held₂, _⟩ :=
    requeueRunning_eq s formed.current_lt held₁ (by simp; omega)
  rw [← Scheduler.line, nobody] at held₂
  simp [schedule, expire_table, expire_runnable, woken, counter, requeued, held₂.pop_nil]

/-- How a call for a decision can come out: the decision is made, or the line does not fit into the
queue, or the counter is at its end, or nobody is in line. -/
theorem Formed.schedule_cases {s : Scheduler κ} (formed : s.Formed) :
    (∃ switch s', s.schedule = .ok (switch, s') ∧ s.Decision switch s' ∧
        s'.parked = s.parked) ∨
      (s.threads.length < s.line.length ∧ s.schedule = .error (.abort .queueOverflow)) ∨
      (wordMax ≤ s.total ∧ s.schedule = .error (.fault .addOverflow)) ∨
      (s.line = [] ∧ s.schedule = .error (.abort .emptyQueue)) := by
  have length := s.line_length
  by_cases inWord : s.total < wordMax
  · by_cases room : s.line.length ≤ s.threads.length
    · cases line : s.line with
      | nil => exact .inr (.inr (.inr ⟨rfl, formed.schedule_nobody inWord line⟩))
      | cons target rest =>
        obtain ⟨s', decided, dec, parked⟩ := schedule_eq formed inWord line room
        exact .inl ⟨_, s', decided, dec, parked⟩
    · have crowded := Nat.lt_of_not_le room
      exact .inr (.inl ⟨crowded, formed.schedule_crowded inWord crowded⟩)
  · by_cases crowded : s.threads.length <
        s.ready.toList.length + (wokenBy s.total s.threads).length
    · exact .inr (.inl ⟨by omega, formed.schedule_woken_full crowded⟩)
    · obtain ⟨q₁, woken, held₁⟩ :=
        enqueueAll_eq formed.ring (wokenBy s.total s.threads) (by omega)
      have counter : Checked.add s.total 1 = .error (.fault .addOverflow) :=
        Checked.add_overflow (by omega)
      refine .inr (.inr (.inl ⟨by omega, ?_⟩))
      simp [schedule, expire_table, expire_runnable, woken, counter]

end Scheduler

end RoundRobin
