import RoundRobin.Proofs.Scheduler.Discipline

/-!
# First come, first served

How long a queued thread waits is counted in decisions. `ahead` lists who stands before a thread;
each decision takes the first of them away, a block or an end may take another out, and everybody
else joins at the back. So a thread's place goes down by exactly those, and nobody overtakes.
-/

namespace RoundRobin.Scheduler

variable {κ : Type}

/-- Who stands before `tid` in a queue; everybody, if `tid` is not there. -/
def ahead (tid : Tid) (queue : List Tid) : List Tid := queue.takeWhile (· != tid)

theorem ahead_cons (tid u : Tid) (queue : List Tid) :
    ahead tid (u :: queue) = if u = tid then [] else u :: ahead tid queue := by
  by_cases same : u = tid <;> simp [ahead, same]

theorem ahead_append {tid : Tid} {queue : List Tid} (mem : tid ∈ queue) (more : List Tid) :
    ahead tid (queue ++ more) = ahead tid queue := by
  induction queue with
  | nil => exact absurd mem List.not_mem_nil
  | cons u queue ih =>
    rw [List.cons_append, ahead_cons, ahead_cons]
    by_cases same : u = tid
    · rw [if_pos same, if_pos same]
    · have later : tid ∈ queue := (List.mem_cons.mp mem).resolve_left (Ne.symm same)
      rw [if_neg same, if_neg same, ih later]

theorem ahead_erase {tid u : Tid} (ne : u ≠ tid) (queue : List Tid) :
    ahead tid (queue.erase u) = (ahead tid queue).erase u := by
  induction queue with
  | nil => rfl
  | cons v queue ih =>
    by_cases found : v = u
    · subst v
      rw [List.erase_cons_head, ahead_cons, if_neg ne, List.erase_cons_head]
    · rw [List.erase_cons_tail (by simpa using found), ahead_cons, ahead_cons]
      by_cases same : v = tid
      · rw [if_pos same, if_pos same, List.erase_nil]
      · rw [if_neg same, if_neg same, ih, List.erase_cons_tail (by simpa using found)]

theorem ahead_subset {tid : Tid} {queue : List Tid} : ahead tid queue ⊆ queue :=
  (List.takeWhile_prefix _).subset

theorem getElem?_length_ahead {tid : Tid} {queue : List Tid} (mem : tid ∈ queue) :
    queue[(ahead tid queue).length]? = some tid := by
  induction queue with
  | nil => exact absurd mem List.not_mem_nil
  | cons u queue ih =>
    rw [ahead_cons]
    by_cases same : u = tid
    · simp [same]
    · have later : tid ∈ queue := (List.mem_cons.mp mem).resolve_left (Ne.symm same)
      simpa [same] using ih later

theorem length_ahead_eq {tid : Tid} {queue : List Tid} {k : Nat} (nodup : queue.Nodup)
    (place : queue[k]? = some tid) : (ahead tid queue).length = k := by
  have found := getElem?_length_ahead (List.mem_of_getElem? place)
  have inside := (List.getElem?_eq_some_iff.mp found).1
  exact (List.getElem?_inj inside nodup).mp (found.trans place.symm)

theorem ahead_eq_take {tid : Tid} {queue : List Tid} {k : Nat} (nodup : queue.Nodup)
    (place : queue[k]? = some tid) : ahead tid queue = queue.take k := by
  rw [← length_ahead_eq nodup place]
  exact List.prefix_iff_eq_take.mp (List.takeWhile_prefix _)

/-- Whether the step takes somebody who stands before `tid` out of the queue, by a block or an
end. -/
def Step.clears (tid : Tid) (step : Step κ) : Bool :=
  match step.op with
  | .block u | .terminate u =>
    (ahead tid step.before.scheduler.ready.toList).contains u &&
      !step.after.scheduler.ready.toList.contains u
  | _ => false

def removals (tid : Tid) (steps : List (Step κ)) : Nat := steps.countP (Step.clears tid)

/-- The step asks to take `tid` itself off the queue. The main thread cannot be taken off. -/
def Step.Withdraws (tid : Tid) (step : Step κ) : Prop :=
  tid ≠ 0 ∧ (step.op = .block tid ∨ step.op = .terminate tid)

variable {s s' : Scheduler κ} {b b' : Bench κ} {prime : Tid → Stack → Option κ} {step : Step κ}
  {steps : List (Step κ)} {tid : Tid}

theorem Step.clears_eq_false
    (kept : ∀ u, step.op = .block u ∨ step.op = .terminate u →
      u ∈ ahead tid step.before.scheduler.ready.toList → u ∈ step.after.scheduler.ready.toList) :
    step.clears tid = false := by
  unfold clears
  split
  · next u op => simpa using kept u (.inl op)
  · next u op => simpa using kept u (.inr op)
  · rfl

theorem Step.clears_of_erase {u : Tid} (op : step.op = .block u ∨ step.op = .terminate u)
    (nodup : step.before.scheduler.ready.toList.Nodup)
    (queue : step.after.scheduler.ready.toList = step.before.scheduler.ready.toList.erase u) :
    step.clears tid = (ahead tid step.before.scheduler.ready.toList).contains u := by
  have gone : u ∉ step.after.scheduler.ready.toList := by
    rw [queue, nodup.mem_erase_iff]
    simp
  rcases op with op | op
  · simp [clears, op, gone]
  · simp [clears, op, gone]

/-- An operation that is no decision adds to the back of the queue or takes one thread out. -/
theorem Effect.queue_cases {op : Op} {answer : Answer} (effect : s.Effect op answer s')
    (asked : op ≠ .schedule) :
    (∃ more, s'.ready.toList = s.ready.toList ++ more) ∨
      ∃ u, u ≠ 0 ∧ (op = .block u ∨ op = .terminate u) ∧
        s'.ready.toList = s.ready.toList.erase u := by
  cases effect with
  | refused | blockedAgain | resumedIdle | endedMain => exact .inl ⟨[], by simp⟩
  | decided => exact absurd rfl asked
  | blockedAsleep _ _ _ up | blockedRunning _ _ _ up | resumedAsleep _ _ up | slept _ _ _ _ up
  | endedSelf _ _ _ up => exact .inl ⟨[], by simpa using up.queue_eq⟩
  | admitted _ _ _ _ _ _ up | resumedBlocked _ _ up => exact .inl ⟨_, up.queue_eq⟩
  | blockedReady _ spawned _ up => exact .inr ⟨_, spawned, .inl rfl, up.queue_eq⟩
  | endedOther _ spawned _ _ up => exact .inr ⟨_, spawned, .inr rfl, up.queue_eq⟩

/-- The thread that leaves the processor was not in the queue. -/
theorem Effect.queue_of_due {op : Op} {answer : Answer} (effect : s.Effect op answer s')
    (due : answer.callsForDecision = true) :
    s'.ready.toList = s.ready.toList ∧
      ∀ u, op = .block u ∨ op = .terminate u → u = s.current := by
  cases effect with
  | refused | admitted | decided | blockedAgain | blockedAsleep | blockedReady | resumedBlocked
  | resumedAsleep | resumedIdle | endedMain | endedOther =>
    simp [Answer.callsForDecision] at due
  | blockedRunning _ _ _ up => exact ⟨up.queue_eq, by simp⟩
  | slept _ _ _ _ up => exact ⟨up.queue_eq, by simp⟩
  | endedSelf _ _ _ up => exact ⟨up.queue_eq, by simp⟩

/-- A decision goes to a queued thread, or takes the first of those who stand before it. -/
theorem Decision.ahead_eq {switch : Switch} (dec : s.Decision switch s')
    (queued : tid ∈ s.ready.toList) :
    (switch.target = tid ∧ ahead tid s.ready.toList = []) ∨
      (switch.target ≠ tid ∧ tid ∈ s'.ready.toList ∧
        ahead tid s.ready.toList = switch.target :: ahead tid s'.ready.toList) := by
  have first : ahead tid s.ready.toList = ahead tid s.line := by
    rw [Scheduler.line, List.append_assoc, ahead_append queued]
  have inLine : tid ∈ s.line := by simp [Scheduler.line, queued]
  rw [dec.line, ahead_cons] at first
  rw [dec.line] at inLine
  by_cases same : switch.target = tid
  · rw [if_pos same] at first
    exact .inl ⟨same, first⟩
  · rw [if_neg same] at first
    exact .inr ⟨same, (List.mem_cons.mp inLine).resolve_left (Ne.symm same), first⟩

/-- What a step leaves of a queued thread's wait: it is over, and nobody stood before the thread, or
those who stand before it are what remains when the dispatched and the removed are taken away. -/
theorem Step.Valid.wait (valid : step.Valid prime) (start : step.before.scheduler.Settled)
    (queued : tid ∈ step.before.scheduler.ready.toList) (stays : ¬ step.Withdraws tid) :
    (step.dispatched? = some tid ∧ ahead tid step.before.scheduler.ready.toList = []) ∨
      (step.dispatched? ≠ some tid ∧ tid ∈ step.after.scheduler.ready.toList ∧
        (step.dispatched?.toList ++ ahead tid step.after.scheduler.ready.toList).Sublist
          (ahead tid step.before.scheduler.ready.toList) ∧
        (ahead tid step.after.scheduler.ready.toList).length + step.dispatched?.toList.length +
            (step.clears tid).toNat =
          (ahead tid step.before.scheduler.ready.toList).length) := by
  cases valid.course start with
  | quiet asked effect _ _ _ nobody =>
    refine .inr ⟨by simp [nobody], ?_⟩
    rw [nobody]
    rcases effect.queue_cases asked with ⟨more, queue⟩ | ⟨u, spawned, op, queue⟩
    · have kept : step.clears tid = false := clears_eq_false fun u _ before => by
        rw [queue]
        exact List.mem_append_left more (ahead_subset before)
      rw [queue, ahead_append queued, kept]
      exact ⟨List.mem_append_left more queued, List.Sublist.refl _, rfl⟩
    · have other : u ≠ tid := by
        rintro rfl
        exact stays ⟨spawned, op⟩
      rw [clears_of_erase op start.coherent.nodup queue, queue, ahead_erase other]
      refine ⟨(List.mem_erase_of_ne (Ne.symm other)).mpr queued, List.erase_sublist, ?_⟩
      -- A removal behind the thread leaves its place as it is.
      by_cases before : u ∈ ahead tid step.before.scheduler.ready.toList
      · have some_ahead := List.length_pos_of_mem before
        simp only [List.length_erase_of_mem before, List.contains_iff_mem.mpr before,
          Option.toList_none, List.length_nil, Bool.toNat_true]
        omega
      · simp [List.erase_of_not_mem before, before]
  | ticked switch asked _ dec _ _ _ somebody =>
    have idle : step.clears tid = false := by simp [clears, asked]
    rw [somebody, idle]
    rcases dec.ahead_eq queued with ⟨same, first⟩ | ⟨other, left, first⟩
    · exact .inl ⟨by rw [same], first⟩
    · exact .inr ⟨by simpa using other, left, by simp [first], by simp [first]⟩
  | yielded switch effect due dec _ _ somebody =>
    obtain ⟨queue, own⟩ := effect.queue_of_due due
    have idle : step.clears tid = false := clears_eq_false fun u op before => by
      rw [own u op] at before
      exact absurd (ahead_subset before) start.current_not_queued
    -- The operation left the queue alone, so the decision finds it as it was before.
    rw [somebody, idle]
    rw [← queue] at queued ⊢
    rcases dec.ahead_eq queued with ⟨same, first⟩ | ⟨other, left, first⟩
    · exact .inl ⟨by rw [same], first⟩
    · exact .inr ⟨by simpa using other, left, by simp [first], by simp [first]⟩

theorem removals_cons (tid : Tid) (step : Step κ) (steps : List (Step κ)) :
    removals tid (step :: steps) = (step.clears tid).toNat + removals tid steps := by
  cases cleared : step.clears tid
  · simp [removals, cleared]
  · simp [removals, cleared, Nat.add_comm]

/-- While a thread waits, those who stood before it are dispatched in their order, removed, or stand
there still. -/
theorem Run.wait (run : Run prime b steps b') (start : b.scheduler.Settled)
    (queued : tid ∈ b.scheduler.ready.toList) (stays : ∀ step ∈ steps, ¬ step.Withdraws tid)
    (waits : tid ∉ dispatches steps) :
    tid ∈ b'.scheduler.ready.toList ∧
      (dispatches steps ++ ahead tid b'.scheduler.ready.toList).Sublist
        (ahead tid b.scheduler.ready.toList) ∧
      (ahead tid b'.scheduler.ready.toList).length + (dispatches steps).length +
          removals tid steps = (ahead tid b.scheduler.ready.toList).length := by
  induction run with
  | stop b => exact ⟨queued, List.Sublist.refl _, rfl⟩
  | @step step steps b valid rest ih =>
    rw [dispatches_cons, List.mem_append, not_or] at waits
    rcases valid.wait start queued (stays step List.mem_cons_self) with
      ⟨sent, _⟩ | ⟨_, queued', order, count⟩
    · exact absurd (by simp [sent]) waits.1
    · obtain ⟨last, order', count'⟩ := ih (valid.settled_after start) queued'
        (fun x hx => stays x (List.mem_cons_of_mem step hx)) waits.2
      refine ⟨last, ?_, ?_⟩
      -- The step's own dispatch goes in front of the later ones, as it did in the queue.
      · rw [dispatches_cons, List.append_assoc]
        exact (order'.append_left _).trans order
      · rw [dispatches_cons, List.length_append, removals_cons]
        omega

/-- The decision that a thread gets is the one made while it stands at the front. -/
theorem Step.Valid.dispatched_iff_front (valid : step.Valid prime)
    (start : step.before.scheduler.Settled) (queued : tid ∈ step.before.scheduler.ready.toList)
    (stays : ¬ step.Withdraws tid) :
    step.dispatched? = some tid ↔
      step.dispatched?.isSome ∧ step.before.scheduler.ready.toList[0]? = some tid := by
  have nodup := start.coherent.nodup
  have place := getElem?_length_ahead queued
  rcases valid.wait start queued stays with ⟨sent, first⟩ | ⟨other, _, _, count⟩
  · rw [first] at place
    simpa [sent] using place
  · simp only [other, false_iff]
    rintro ⟨made, front⟩
    obtain ⟨u, sent⟩ := Option.isSome_iff_exists.mp made
    have nobody := length_ahead_eq nodup front
    simp [sent, nobody] at count

/-- A queued thread waits for exactly those who stand before it. Its place is what it was, less the
decisions and the removals since; until it gets the processor only threads from before it do, in
their order; and it gets the decision that is made while it stands at the front, which is among
the next `k + 1`. The state in which the count begins is any state of the run, so a thread that
comes to stand behind later on does not overtake either. -/
theorem queue_wait_exact (capacity : Nat) (one : 1 ≤ capacity) (fits : capacity < 2 ^ 60)
    (prime : Tid → Stack → Option κ) :
    ∃ start : Bench κ, Bench.new capacity = .ok start ∧
      ∀ prior b, Run prime start prior b →
        ∀ k tid, b.scheduler.ready.toList[k]? = some tid →
          k + 1 ≤ capacity - 1 ∧
          ∀ steps b', Run prime b steps b' → (∀ step ∈ steps, ¬ step.Withdraws tid) →
            (tid ∉ dispatches steps →
              (dispatches steps).length + removals tid steps ≤ k ∧
              b'.scheduler.ready.toList[k - (dispatches steps).length - removals tid steps]? =
                some tid ∧
              (dispatches steps).Sublist (b.scheduler.ready.toList.take k)) ∧
            (∀ xs step ys, steps = xs ++ step :: ys → tid ∉ dispatches xs →
              (step.dispatched? = some tid ↔
                step.dispatched?.isSome ∧
                  step.before.scheduler.ready.toList[0]? = some tid)) ∧
            (k + 1 ≤ (dispatches steps).length → tid ∈ dispatches steps) := by
  obtain ⟨start, new, settled, size, _⟩ := new_settled one fits
  refine ⟨start, new, fun prior b reached k tid place => ?_⟩
  have here := reached.settled settled
  have nodup := here.coherent.nodup
  have queued := List.mem_of_getElem? place
  have length := length_ahead_eq nodup place
  refine ⟨?_, fun steps b' run stays => ?_⟩
  · have inside := (List.getElem?_eq_some_iff.mp place).1
    have room := here.coherent.room here.coherent.current_lt here.current_not_queued
    rw [reached.length_eq settled, size] at room
    omega
  have waiting : tid ∉ dispatches steps → _ := run.wait here queued stays
  refine ⟨fun waits => ?_, ?_, fun enough => ?_⟩
  · obtain ⟨queued', order, count⟩ := waiting waits
    refine ⟨by omega, ?_, ?_⟩
    · have place' := getElem?_length_ahead queued'
      rwa [show (ahead tid b'.scheduler.ready.toList).length =
        k - (dispatches steps).length - removals tid steps by omega] at place'
    · rw [← ahead_eq_take nodup place]
      exact (List.sublist_append_left _ _).trans order
  · rintro xs step ys rfl waits
    obtain ⟨m, first, last⟩ := Run.append_iff.mp run
    cases last with
    | step valid rest =>
      obtain ⟨queued', _⟩ := first.wait here queued
        (fun x hx => stays x (List.mem_append_left _ hx)) waits
      exact valid.dispatched_iff_front (first.settled here) queued' (stays step (by simp))
  · by_contra waits
    obtain ⟨_, _, count⟩ := waiting waits
    omega

/-- The last of three, with one dispatched and one blocked before it, is next. -/
theorem queue_wait_exact_third :
    ∃ (start : Bench Unit) (prior : List (Step Unit)) (b : Bench Unit) (steps : List (Step Unit))
      (b' : Bench Unit),
      1 ≤ 4 ∧ 4 < 2 ^ 60 ∧ Bench.new 4 = .ok start ∧ Run (fun _ _ => none) start prior b ∧
        b.scheduler.ready.toList[2]? = some 3 ∧ Run (fun _ _ => none) b steps b' ∧
        (∀ step ∈ steps, ¬ step.Withdraws 3) ∧ dispatches steps = [1] ∧ removals 3 steps = 1 ∧
        b'.scheduler.ready.toList[0]? = some 3 := by
  obtain ⟨start, new, all⟩ := queue_wait_exact (κ := Unit) 4 (by decide) (by decide) fun _ _ => none
  obtain ⟨prior, b, performed, place, steps, b', traced, stays, sent, removed⟩ :
    ∃ (prior : List (Step Unit)) (b : Bench Unit),
      perform (fun _ _ => none) 4
          [.spawn (some 7) 4096 (mapAt 65536), .spawn (some 8) 4096 (mapAt 131072),
            .spawn (some 9) 4096 (mapAt 196608)] = .ok (prior, b) ∧
        b.scheduler.ready.toList[2]? = some 3 ∧ ∃ steps b',
        trace (fun _ _ => none) b [.schedule, .block 2] = .ok (steps, b') ∧
        (∀ step ∈ steps, ¬ step.Withdraws 3) ∧ dispatches steps = [1] ∧ removals 3 steps = 1 :=
    ⟨_, _, rfl, rfl, _, _, rfl, by simp [Step.Withdraws], rfl, rfl⟩
  have first := perform_run new _ (by decide) performed
  have second := trace_run _ (by decide) traced
  obtain ⟨_, waits⟩ := all prior b first 2 3 place
  obtain ⟨_, next, _⟩ := (waits steps b' second stays).1 (by simp [sent])
  rw [sent, removed] at next
  exact ⟨start, prior, b, steps, b', by decide, by decide, new, first, place, second, stays, sent,
    removed, next⟩

end RoundRobin.Scheduler
