import RoundRobin.Proofs.Scheduler.Discipline

/-!
# Operations on different threads

To block, resume or end a thread that is not current takes a look at its slot and at nothing else.
What comes of it is a `Touch`: an answer, a change of that slot, and perhaps one step of that number
into the queue or out of it. A touch of one slot leaves the others as they are, so operations on
different threads can be exchanged. Only two threads that join the queue stand there in the order in
which they came.

The queue is compared as a sequence. The ring that holds it shows in which order gaps were closed.
-/

namespace RoundRobin.Scheduler

variable {κ : Type}

inductive Place where
  | keeps
  | leaves
  | joins
  deriving DecidableEq, Repr

def Place.onQueue (tid : Tid) : Place → List Tid → List Tid
  | .keeps, queue => queue
  | .leaves, queue => queue.erase tid
  | .joins, queue => queue ++ [tid]

structure Touch (κ : Type) where
  answer : Answer
  slot : Thread κ → Thread κ
  place : Place
  /-- Whether the end of the process is asked for. -/
  ends : Bool

def Touch.idle (answer : Answer) : Touch κ := ⟨answer, id, .keeps, false⟩

structure Touch.Done (touch : Touch κ) (tid : Tid) (s s' : Scheduler κ) : Prop where
  threads : s'.threads = s.threads.modify tid touch.slot
  queue : s'.ready.toList = touch.place.onQueue tid s.ready.toList
  current : s'.current = s.current
  total : s'.total = s.total
  parked : s'.parked = s.parked
  shutdown : s'.shutdown = (s.shutdown || touch.ends)

/-- In every coherent state that agrees with `s` in slot `tid`, which is not current, `op` comes to
`touch`. -/
def Touches (s : Scheduler κ) (op : Op) (tid : Tid) (touch : Touch κ) : Prop :=
  ∀ (b : Bench κ) (prime : Tid → Stack → Option κ), b.scheduler.Coherent →
    b.scheduler.threads[tid]? = s.threads[tid]? → tid ≠ b.scheduler.current →
      ∃ s', b.apply prime op = .ok (touch.answer, { b with scheduler := s' }) ∧
        touch.Done tid b.scheduler s'

variable {s s' s₁ s₂ s₃ s₄ : Scheduler κ} {op : Op} {tid i j : Tid} {t : Thread κ}
  {touch x y : Touch κ}

theorem thread_congr (same : s'.threads[tid]? = s.threads[tid]?) :
    s'.thread tid = s.thread tid := by
  rw [thread, same, thread]

@[simp]
theorem Touch.idle_place (answer : Answer) : (Touch.idle answer : Touch κ).place = .keeps := rfl

theorem Touch.idle_done (answer : Answer) (tid : Tid) (s : Scheduler κ) :
    (Touch.idle answer).Done tid s s :=
  ⟨(List.modify_id ..).symm, rfl, rfl, rfl, rfl, (Bool.or_false _).symm⟩

/-- An operation that has only an answer for this slot. -/
theorem Touches.idle {answer : Answer}
    (answered : ∀ (b : Bench κ) (prime : Tid → Stack → Option κ),
      b.scheduler.threads[tid]? = s.threads[tid]? → b.apply prime op = .ok (answer, b)) :
    s.Touches op tid (.idle answer) :=
  fun b prime _ same _ => ⟨b.scheduler, answered b prime same, Touch.idle_done answer tid _⟩

theorem Update.touched {f : Thread κ → Thread κ} {place : Place} (answer : Answer)
    (slot : s.threads[tid]? = some t)
    (up : s.Update tid (f t) (place.onQueue tid s.ready.toList) s') :
    Touch.Done ⟨answer, f, place, false⟩ tid s s' where
  threads := by
    obtain ⟨inside, rfl⟩ := List.getElem?_eq_some_iff.mp slot
    rw [up.threads, List.modify_eq_set_get _ inside]
    rfl
  queue := up.queue_eq
  current := up.current
  total := up.total
  parked := up.parked
  shutdown := by rw [up.shutdown, Bool.or_false]

theorem block_touches (s : Scheduler κ) (tid : Tid) :
    ∃ touch, touch.place ≠ .joins ∧ s.Touches (.block tid) tid touch := by
  by_cases main : tid = 0
  · refine ⟨.idle (.refused (.invalidTid tid)), by simp, Touches.idle fun b prime _ => ?_⟩
    simp [Bench.apply, block, main, Bench.conclude]
  rcases s.thread_cases tid with ⟨t, slot, live, found⟩ | invalid
  · have known : ∀ {b : Bench κ}, b.scheduler.threads[tid]? = s.threads[tid]? →
        b.scheduler.stateOf tid = .ok t.state := by
      intro b same
      rw [stateOf, thread_congr same, found]
      rfl
    cases state : t.state with
    | unused => exact absurd state (live.resolve_left main)
    | blocked =>
      refine ⟨.idle (.suspension .goOn), by simp, Touches.idle fun b prime same => ?_⟩
      simp [Bench.apply, block, main, known same, state, Bench.conclude]
    | sleeping | sleepBlocked =>
      refine ⟨⟨.suspension .goOn, fun t => { t with state := .sleepBlocked }, .keeps, false⟩,
        by simp, fun b prime coh same _ => ?_⟩
      have up := setState_update (same.trans slot) .sleepBlocked coh.ring
      refine ⟨_, ?_, up.touched _ (same.trans slot)⟩
      simp [Bench.apply, block, main, known same, state, Bench.conclude, setState]
    | running | ready =>
      refine ⟨⟨.suspension .goOn, fun t => { t with state := .blocked }, .leaves, false⟩, by simp,
        fun b prime coh same other => ?_⟩
      obtain ⟨ready, removed, ring⟩ := coh.ring.remove_eq tid
      have up := setState_update (same.trans slot) .blocked ring
      refine ⟨_, ?_, up.touched _ (same.trans slot)⟩
      simp [Bench.apply, block, main, known same, state, other, removed, Bench.conclude]
  · refine ⟨.idle (.refused (.invalidTid tid)), by simp, Touches.idle fun b prime same => ?_⟩
    simp [Bench.apply, block, main, stateOf, thread_congr same, invalid, Except.map,
      Bench.conclude]

theorem resume_touches (s : Scheduler κ) (tid : Tid) :
    ∃ touch, s.Touches (.resume tid) tid touch := by
  rcases s.thread_cases tid with ⟨t, slot, _, found⟩ | invalid
  · have known : ∀ {b : Bench κ}, b.scheduler.threads[tid]? = s.threads[tid]? →
        b.scheduler.stateOf tid = .ok t.state := by
      intro b same
      rw [stateOf, thread_congr same, found]
      rfl
    cases state : t.state with
    | blocked =>
      refine ⟨⟨.done, fun t => { t with state := .ready }, .joins, false⟩,
        fun b prime coh same _ => ?_⟩
      have here := same.trans slot
      -- Whoever is blocked is not queued, so there is room.
      have absent : tid ∉ b.scheduler.ready.toList := fun queued => by
        simpa [state] using (coh.slots tid t here).queued.mpr queued
      have room := coh.room (List.getElem?_eq_some_iff.mp here).1 absent
      obtain ⟨ready, pushed, ring⟩ := enqueue_eq coh.ring room tid
      refine ⟨_, ?_, (setState_update here .ready ring).touched _ here⟩
      simp [Bench.apply, resume, known same, state, pushed, Bench.conclude]
    | sleepBlocked =>
      refine ⟨⟨.done, fun t => { t with state := .sleeping }, .keeps, false⟩,
        fun b prime coh same _ => ?_⟩
      have up := setState_update (same.trans slot) .sleeping coh.ring
      refine ⟨_, ?_, up.touched _ (same.trans slot)⟩
      simp [Bench.apply, resume, known same, state, Bench.conclude, setState]
    | running | ready | sleeping | unused =>
      refine ⟨.idle .done, Touches.idle fun b prime same => ?_⟩
      simp [Bench.apply, resume, known same, state, Bench.conclude]
  · refine ⟨.idle (.refused (.invalidTid tid)), Touches.idle fun b prime same => ?_⟩
    simp [Bench.apply, resume, stateOf, thread_congr same, invalid, Except.map, Bench.conclude]

theorem terminate_touches (s : Scheduler κ) (tid : Tid) :
    ∃ touch, touch.place ≠ .joins ∧ s.Touches (.terminate tid) tid touch := by
  by_cases main : tid = 0
  · refine ⟨⟨.ended .processEnd, id, .keeps, true⟩, by simp, fun b prime _ _ _ =>
      ⟨{ b.scheduler with shutdown := true }, ?_, ?_⟩⟩
    · simp [Bench.apply, terminate, main, Bench.conclude]
    · exact ⟨(List.modify_id ..).symm, rfl, rfl, rfl, rfl, (Bool.or_true _).symm⟩
  rcases s.thread_cases tid with ⟨t, slot, _, found⟩ | invalid
  · refine ⟨⟨.ended (.removed t.stack), fun t => t.release.2, .leaves, false⟩, by simp,
      fun b prime coh same other => ?_⟩
    have here := same.trans slot
    have inside := (List.getElem?_eq_some_iff.mp here).1
    obtain ⟨ready, removed, ring⟩ := coh.ring.remove_eq tid
    have up : b.scheduler.Update tid t.release.2 (Place.leaves.onQueue tid b.scheduler.ready.toList)
        { b.scheduler with threads := b.scheduler.threads.set tid t.release.2, ready } :=
      ⟨inside, rfl, ring, rfl, rfl, rfl, rfl⟩
    refine ⟨_, ?_, up.touched (f := fun t => t.release.2) _ here⟩
    simp [Bench.apply, terminate, main, thread_congr same, found, Thread.release,
      Checked.set_eq_ok inside, removed, other, Bench.conclude]
  · refine ⟨.idle (.refused (.invalidTid tid)), by simp, Touches.idle fun b prime same => ?_⟩
    simp [Bench.apply, terminate, main, thread_congr same, invalid, Bench.conclude]

/-- Steps of different numbers in the queue can be exchanged, unless both join it. -/
theorem Place.onQueue_comm {p q : Place} (apart : i ≠ j) (first : p ≠ .joins) (queue : List Tid) :
    q.onQueue j (p.onQueue i queue) = p.onQueue i (q.onQueue j queue) := by
  cases p with
  | joins => exact absurd rfl first
  | keeps => rfl
  | leaves =>
    cases q with
    | keeps => rfl
    | leaves => exact List.erase_comm i j
    | joins =>
      simp only [onQueue]
      by_cases queued : i ∈ queue
      · rw [List.erase_append_left _ queued]
      · rw [List.erase_append_right _ queued, List.erase_of_not_mem queued,
          List.erase_of_not_mem (by simpa using apart)]

namespace Touch.Done

theorem elsewhere (done : touch.Done i s s') (apart : i ≠ j) :
    s'.threads[j]? = s.threads[j]? := by
  rw [done.threads, List.getElem?_modify]
  simp [apart]

/-- Both orders lead to the same table and the same queue. -/
theorem agree (apart : i ≠ j) (first : x.place ≠ .joins) (xs : x.Done i s s₁) (ys : y.Done j s₁ s₂)
    (ys' : y.Done j s s₃) (xs' : x.Done i s₃ s₄) :
    s₂.threads = s₄.threads ∧ s₂.ready.toList = s₄.ready.toList ∧ s₂.current = s₄.current ∧
      s₂.total = s₄.total ∧ s₂.parked = s₄.parked ∧ s₂.shutdown = s₄.shutdown := by
  refine ⟨?_, ?_, ?_, ?_, ?_, ?_⟩
  · rw [ys.threads, xs.threads, xs'.threads, ys'.threads, List.modify_modify_ne _ _ _ apart]
  · rw [ys.queue, xs.queue, xs'.queue, ys'.queue, Place.onQueue_comm apart first]
  · rw [ys.current, xs.current, xs'.current, ys'.current]
  · rw [ys.total, xs.total, xs'.total, ys'.total]
  · rw [ys.parked, xs.parked, xs'.parked, ys'.parked]
  · rw [ys.shutdown, xs.shutdown, xs'.shutdown, ys'.shutdown, Bool.or_right_comm]

end Touch.Done

/-- Two operations that touch different slots, neither of them the current one's, in both orders. -/
theorem Settled.exchange {b : Bench κ} {f g : Op} (settled : b.scheduler.Settled)
    (prime : Tid → Stack → Option κ) (apart : i ≠ j) (other : i ≠ b.scheduler.current)
    (other' : j ≠ b.scheduler.current) (ordinary : f.isOrdinary) (ordinary' : g.isOrdinary)
    (xs : b.scheduler.Touches f i x) (ys : b.scheduler.Touches g j y) :
    ∃ b₁ b₂ b₃ b₄, b.apply prime f = .ok (x.answer, b₁) ∧ b₁.apply prime g = .ok (y.answer, b₂) ∧
      b.apply prime g = .ok (y.answer, b₃) ∧ b₃.apply prime f = .ok (x.answer, b₄) ∧
      x.Done i b.scheduler b₁.scheduler ∧ y.Done j b₁.scheduler b₂.scheduler ∧
      y.Done j b.scheduler b₃.scheduler ∧ x.Done i b₃.scheduler b₄.scheduler := by
  have coh := settled.coherent
  obtain ⟨s₁, first, xDone⟩ := xs b prime coh rfl other
  obtain ⟨s₃, first', yDone'⟩ := ys b prime coh rfl other'
  -- The first touch leaves the second slot alone, so the second finds there what it would have.
  obtain ⟨s₂, second, yDone⟩ := ys { b with scheduler := s₁ } prime
    ((settled.effect ordinary first).coherent coh) (xDone.elsewhere apart)
    (by rw [xDone.current]; exact other')
  obtain ⟨s₄, second', xDone'⟩ := xs { b with scheduler := s₃ } prime
    ((settled.effect ordinary' first').coherent coh) (yDone'.elsewhere apart.symm)
    (by rw [yDone'.current]; exact other)
  exact ⟨_, _, _, _, first, second, first', second', xDone, yDone, yDone', xDone'⟩

/-- In every state of a disciplined run operations on two different threads, neither of them
current, can be exchanged: one of them blocks or ends its thread, the other blocks, ends or resumes
its own. The answers are the same, refusals included, and so are the table, the sequence of the
queued threads and everything else that the scheduler holds. -/
theorem operations_commute (capacity : Nat) (one : 1 ≤ capacity) (fits : capacity < 2 ^ 60)
    (prime : Tid → Stack → Option κ) :
    ∃ start : Bench κ, Bench.new capacity = .ok start ∧
      ∀ steps b, Run prime start steps b →
        ∀ i j : Tid, i ≠ j → i ≠ b.scheduler.current → j ≠ b.scheduler.current →
          ∀ f ∈ [Op.block i, .terminate i], ∀ g ∈ [Op.block j, .terminate j, .resume j],
            ∃ r r' b₁ b₂ b₃ b₄,
              b.apply prime f = .ok (r, b₁) ∧ b₁.apply prime g = .ok (r', b₂) ∧
              b.apply prime g = .ok (r', b₃) ∧ b₃.apply prime f = .ok (r, b₄) ∧
              b₂.scheduler.threads = b₄.scheduler.threads ∧
              b₂.scheduler.ready.toList = b₄.scheduler.ready.toList ∧
              b₂.scheduler.current = b₄.scheduler.current ∧
              b₂.scheduler.total = b₄.scheduler.total ∧
              b₂.scheduler.parked = b₄.scheduler.parked ∧
              b₂.scheduler.shutdown = b₄.scheduler.shutdown := by
  obtain ⟨start, new, fresh, _⟩ := new_settled one fits
  refine ⟨start, new, fun steps b run i j apart other other' f hf g hg => ?_⟩
  have settled := run.settled fresh
  obtain ⟨x, first, ordinary, xs⟩ : ∃ x : Touch κ, x.place ≠ .joins ∧ f.isOrdinary ∧
      b.scheduler.Touches f i x := by
    simp only [List.mem_cons, List.not_mem_nil, or_false] at hf
    rcases hf with rfl | rfl
    · obtain ⟨x, first, xs⟩ := b.scheduler.block_touches i
      exact ⟨x, first, rfl, xs⟩
    · obtain ⟨x, first, xs⟩ := b.scheduler.terminate_touches i
      exact ⟨x, first, rfl, xs⟩
  obtain ⟨y, ordinary', ys⟩ : ∃ y : Touch κ, g.isOrdinary ∧ b.scheduler.Touches g j y := by
    simp only [List.mem_cons, List.not_mem_nil, or_false] at hg
    rcases hg with rfl | rfl | rfl
    · obtain ⟨y, _, ys⟩ := b.scheduler.block_touches j
      exact ⟨y, rfl, ys⟩
    · obtain ⟨y, _, ys⟩ := b.scheduler.terminate_touches j
      exact ⟨y, rfl, ys⟩
    · obtain ⟨y, ys⟩ := b.scheduler.resume_touches j
      exact ⟨y, rfl, ys⟩
  obtain ⟨b₁, b₂, b₃, b₄, left, left', right, right', xDone, yDone, yDone', xDone'⟩ :=
    settled.exchange prime apart other other' ordinary ordinary' xs ys
  exact ⟨x.answer, y.answer, b₁, b₂, b₃, b₄, left, left', right, right',
    xDone.agree apart first yDone yDone' xDone'⟩

/-- Thread 1 ends at the front of the queue and thread 2, which was blocked in the middle of it,
comes back. The rings differ afterwards and hold the same queue. -/
theorem operations_commute_rings :
    ∃ (start : Bench Unit) (steps : List (Step Unit)) (b b₁ b₂ b₃ b₄ : Bench Unit),
      1 ≤ 4 ∧ 4 < 2 ^ 60 ∧ Bench.new 4 = .ok start ∧ Run (fun _ _ => none) start steps b ∧
        1 ≠ 2 ∧ 1 ≠ b.scheduler.current ∧ 2 ≠ b.scheduler.current ∧
        b.scheduler.ready.toList = [1, 3] ∧
        b.apply (fun _ _ => none) (.terminate 1) =
          .ok (.ended (.removed (some ⟨65536, 8192⟩)), b₁) ∧
        b₁.apply (fun _ _ => none) (.resume 2) = .ok (.done, b₂) ∧
        b.apply (fun _ _ => none) (.resume 2) = .ok (.done, b₃) ∧
        b₃.apply (fun _ _ => none) (.terminate 1) =
          .ok (.ended (.removed (some ⟨65536, 8192⟩)), b₄) ∧
        b₂.scheduler.ready.toList = [3, 2] ∧ b₄.scheduler.ready.toList = [3, 2] ∧
        b₂.scheduler.ready ≠ b₄.scheduler.ready ∧
        b₂.scheduler.threads = b₄.scheduler.threads := by
  obtain ⟨start, new, all⟩ :=
    operations_commute (κ := Unit) 4 (by decide) (by decide) fun _ _ => none
  obtain ⟨steps, b, c₁, c₂, c₃, c₄, performed, current, before, end₁, lift₂, lift₃, end₄, queue,
      rings⟩ :
      ∃ (steps : List (Step Unit)) (b c₁ c₂ c₃ c₄ : Bench Unit),
        perform (fun _ _ => none) 4
            [.spawn (some 7) 4096 (mapAt 65536), .spawn (some 8) 4096 (mapAt 131072),
              .spawn (some 9) 4096 (mapAt 262144), .block 2] = .ok (steps, b) ∧
          b.scheduler.current = 0 ∧ b.scheduler.ready.toList = [1, 3] ∧
          b.apply (fun _ _ => none) (.terminate 1) =
            .ok (.ended (.removed (some ⟨65536, 8192⟩)), c₁) ∧
          c₁.apply (fun _ _ => none) (.resume 2) = .ok (.done, c₂) ∧
          b.apply (fun _ _ => none) (.resume 2) = .ok (.done, c₃) ∧
          c₃.apply (fun _ _ => none) (.terminate 1) =
            .ok (.ended (.removed (some ⟨65536, 8192⟩)), c₄) ∧
          c₂.scheduler.ready.toList = [3, 2] ∧ c₂.scheduler.ready ≠ c₄.scheduler.ready :=
    ⟨_, _, _, _, _, _, rfl, rfl, rfl, rfl, rfl, rfl, rfl, rfl, by decide⟩
  have run := perform_run new _ (by decide) performed
  have away : 1 ≠ b.scheduler.current ∧ 2 ≠ b.scheduler.current := by
    rw [current]
    decide
  obtain ⟨r, r', b₁, b₂, b₃, b₄, left, left', right, right', threads, same, _⟩ :=
    all steps b run 1 2 (by decide) away.1 away.2 (.terminate 1) (by simp) (.resume 2) (by simp)
  obtain ⟨rfl, rfl⟩ := Prod.mk.inj (Except.ok.inj (end₁.symm.trans left))
  obtain ⟨rfl, rfl⟩ := Prod.mk.inj (Except.ok.inj (lift₂.symm.trans left'))
  obtain ⟨_, rfl⟩ := Prod.mk.inj (Except.ok.inj (lift₃.symm.trans right))
  obtain ⟨_, rfl⟩ := Prod.mk.inj (Except.ok.inj (end₄.symm.trans right'))
  exact ⟨start, steps, b, c₁, c₂, c₃, c₄, by decide, by decide, new, run, by decide, away.1, away.2,
    before, end₁, lift₂, lift₃, end₄, queue, same ▸ queue, rings, threads⟩

end RoundRobin.Scheduler
