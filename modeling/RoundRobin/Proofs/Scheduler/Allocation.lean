import RoundRobin.Proofs.Stack
import RoundRobin.Proofs.Scheduler.Careless
import RoundRobin.Proofs.Scheduler.Refusals

/-!
# Stacks that cannot be had

A system that has no room for a mapping says so, and a spawn passes its reason on and changes
nothing. That covers every size whose mapping has a length at all. In the last two pages below the
end of the words it has none: the sum that gives the length leaves the words, and the program fails
instead of being told. Sizes that were set beforehand go the same way.
-/

namespace RoundRobin

/-- A system with no room for a mapping as long as its address space. -/
def Limited (map : Nat → Except OsError Nat) : Prop :=
  ∀ length, mappingLimit ≤ length → map length = .error .outOfMemory

theorem mapAt_limited (base : Nat) : Limited (mapAt base) := by
  intro length long
  simp [mapAt, mapUnless, Objections.few, long]

namespace Scheduler

variable {κ : Type} {s : Scheduler κ} {size program : Nat} {map : Nat → Except OsError Nat}
  {prime : Tid → Stack → Option κ}

/-- A spawn with stacks of `size` bytes is answered: the thread is admitted, on a stack of that size
and of one page at least, or the system's reason is passed on and nothing is changed. -/
def SpawnReports (s : Scheduler κ) (size : Nat) (map : Nat → Except OsError Nat) : Prop :=
  ∀ (program : Nat) (prime : Tid → Stack → Option κ),
    (∃ reason, s.spawn (some program) size map prime =
      .ok (.error (.stackAllocation reason), s)) ∨
    ∃ tid s' t stack, s.spawn (some program) size map prime = .ok (.ok tid, s') ∧
      s'.threads[tid]? = some t ∧ t.stack = some stack ∧
      size ≤ stack.usable ∧ pageSize ≤ stack.usable

theorem free_of_not_full (vacant : ¬ s.Full) : ∃ old, s.freeSlot? = some old := by
  cases free : s.freeSlot? with
  | none => exact absurd (freeSlot?_eq_none_iff.mp free) vacant
  | some old => exact ⟨old, rfl⟩

/-- A length that is no word is noticed once a slot has been found, and nobody is told. -/
theorem spawn_fault (vacant : ¬ s.Full) (large : Stack.Oversized size) :
    s.spawn (some program) size map prime =
      .error (.fault (if size + pageSize ≤ 2 ^ 64 then .addOverflow else .mulOverflow)) := by
  obtain ⟨old, free⟩ := free_of_not_full vacant
  rw [spawn, spawnWith]
  simp only [free, Stack.request_fault large, error_bind]

theorem spawn_refused (vacant : ¬ s.Full) (fits : ¬ Stack.Oversized size) {reason : OsError}
    (failed : map (Stack.mappedLength size) = .error reason) :
    s.spawn (some program) size map prime = .ok (.error (.stackAllocation reason), s) :=
  spawn_refuses_iff.mpr ⟨rfl, .inr ⟨vacant, fits, reason, failed, rfl⟩⟩

/-- Whoever gets a stack is admitted while the queue has room. -/
theorem Formed.spawn_admitted (formed : s.Formed) (vacant : ¬ s.Full)
    (room : s.ready.toList.length < s.threads.length) {stack : Stack}
    (mapped : Stack.request map size = .ok (.ok stack)) :
    ∃ tid s' t, s.spawn (some program) size map prime = .ok (.ok tid, s') ∧
      s'.threads[tid]? = some t ∧ t.stack = some stack := by
  obtain ⟨old, free⟩ := free_of_not_full vacant
  obtain ⟨_, slot, _⟩ := formed.freeSlot?_eq_some free
  have inside := (List.getElem?_eq_some_iff.mp slot).1
  obtain ⟨ready, pushed, _⟩ := enqueue_eq formed.ring room old.tid
  let new := Thread.fresh old.tid program stack (prime old.tid stack)
  refine ⟨old.tid, { s with threads := s.threads.set old.tid new, ready }, new, ?_,
    List.getElem?_set_self inside, rfl⟩
  simp [spawn, spawnWith, free, mapped, Checked.get_eq_ok slot, Checked.set_eq_ok inside, pushed,
    new, Thread.fresh]

theorem Formed.spawn_crowded (formed : s.Formed) (vacant : ¬ s.Full)
    (full : s.ready.toList.length = s.threads.length) {stack : Stack}
    (mapped : Stack.request map size = .ok (.ok stack)) :
    s.spawn (some program) size map prime = .error (.abort .queueOverflow) := by
  obtain ⟨old, free⟩ := free_of_not_full vacant
  obtain ⟨_, slot, _⟩ := formed.freeSlot?_eq_some free
  have inside := (List.getElem?_eq_some_iff.mp slot).1
  simp [spawn, spawnWith, free, mapped, Checked.get_eq_ok slot, Checked.set_eq_ok inside,
    enqueue_full formed.ring full]

/-- A size whose mapping has a length is answered for while the queue has room. -/
theorem Formed.spawnReports (formed : s.Formed) (vacant : ¬ s.Full)
    (room : s.ready.toList.length < s.threads.length) (fits : ¬ Stack.Oversized size) :
    s.SpawnReports size map := by
  intro program prime
  rcases Stack.request_of_fits fits map with ⟨reason, failed⟩ | ⟨stack, mapped⟩
  · exact .inl ⟨reason, spawn_refused vacant fits failed⟩
  · obtain ⟨tid, s', t, spawned, slot, own⟩ := formed.spawn_admitted vacant room mapped
    exact .inr ⟨tid, s', t, stack, spawned, slot, own, (Stack.usable_least mapped).1.2.2,
      Stack.page_le_usable mapped⟩

/-- In good order the queue has room for whoever takes a free slot. -/
theorem Coherent.room_of_vacant (coh : s.Coherent) (vacant : ¬ s.Full) :
    s.ready.toList.length < s.threads.length := by
  obtain ⟨old, free⟩ := free_of_not_full vacant
  obtain ⟨_, slot, unused⟩ := coh.formed.freeSlot?_eq_some free
  refine Nat.lt_of_le_of_ne coh.ring.fits fun full => ?_
  exact coh.not_crowded ⟨full, old.tid, old, slot, by simp [unused]⟩

end Scheduler

/-- A size can be set unless it is in the last page, and then it is spawned with unless it is in the
last two. -/
theorem Config.withStackSize_cases (c : Config) (bytes : Nat) :
    (bytes + pageSize ≤ 2 ^ 64 ∧ ∃ c', c.withStackSize bytes = .ok c' ∧
        c'.stackSize + pageSize ≤ 2 ^ 64 ∧
        (Stack.Oversized c'.stackSize ↔ Stack.Oversized bytes)) ∨
      (2 ^ 64 < bytes + pageSize ∧ c.withStackSize bytes = .error (.fault .mulOverflow)) := by
  have least := wholePages_least (max bytes minStackSize) pageSize_pos
  generalize max ((max bytes minStackSize + pageSize - 1) / pageSize) 1 * pageSize = n at least
  have rounds : n ≤ wordMax ↔ bytes + pageSize ≤ 2 ^ 64 := by
    rw [(Stack.inWord_iff least).1]
    simp only [pageSize, minStackSize]
    omega
  have set := c.withStackSize_eq least
  by_cases inWord : n ≤ wordMax
  · rw [if_pos inWord] at set
    obtain ⟨whole, own⟩ := Stack.inWord_iff (wholePages_self least.1)
    refine .inl ⟨rounds.mp inWord, _, set, whole.mp inWord, ?_⟩
    have asked := (Stack.inWord_iff least).2
    rw [own] at asked
    simp only [Stack.Oversized, pageSize, minStackSize] at asked ⊢
    omega
  · rw [if_neg inWord] at set
    exact .inr ⟨Nat.lt_of_not_le fun le => inWord (rounds.mpr le), set⟩

namespace Scheduler

variable {κ : Type}

/-- Whatever a caller did before, a spawn into a free slot is answered for every size below the last
two pages of the words, and a size beyond the address space is refused by the system; only a queue
that is full makes the library give up, and that takes carelessness. In the last two pages the spawn
fails in a sum or a product. A size that is set is answered for, fails, or cannot be set, by the
same bounds. -/
theorem spawn_reports_below_last_pages (capacity : Nat) (one : 1 ≤ capacity)
    (fits : capacity < 2 ^ 60) :
    ∃ start : Scheduler κ, Scheduler.new capacity = .ok start ∧
      (∀ moves s, Moves start moves s → ¬ s.Full → ∀ map, Limited map →
        (∀ size, size + 2 * pageSize ≤ 2 ^ 64 →
          (s.ready.toList.length < capacity → s.SpawnReports size map) ∧
          ∀ program prime, s.ready.toList.length = capacity →
            (∃ reason, s.spawn (some program) size map prime =
                .ok (.error (.stackAllocation reason), s)) ∨
              s.spawn (some program) size map prime = .error (.abort .queueOverflow)) ∧
        (∀ size program prime, mappingLimit ≤ size → size + 2 * pageSize ≤ 2 ^ 64 →
          s.spawn (some program) size map prime =
            .ok (.error (.stackAllocation .outOfMemory), s)) ∧
        (∀ size program prime, 2 ^ 64 < size + 2 * pageSize →
          s.spawn (some program) size map prime =
            .error (.fault (if size + pageSize ≤ 2 ^ 64 then .addOverflow else .mulOverflow))) ∧
        ∀ (c : Config) (bytes : Nat),
          (bytes + 2 * pageSize ≤ 2 ^ 64 → ∃ c', c.withStackSize bytes = .ok c' ∧
            (s.ready.toList.length < capacity → s.SpawnReports c'.stackSize map)) ∧
          (2 ^ 64 < bytes + 2 * pageSize → bytes + pageSize ≤ 2 ^ 64 →
            ∃ c', c.withStackSize bytes = .ok c' ∧ ∀ program prime,
              s.spawn (some program) c'.stackSize map prime = .error (.fault .addOverflow)) ∧
          (2 ^ 64 < bytes + pageSize → c.withStackSize bytes = .error (.fault .mulOverflow))) ∧
      ∀ prime steps b, Run prime ⟨start, none⟩ steps b → ¬ b.scheduler.Full →
        b.scheduler.ready.toList.length < capacity := by
  obtain ⟨start, new, _, settled, length, _⟩ := new_scheduler (κ := κ) one fits
  refine ⟨start, new, fun moves s run vacant map limited => ?_, fun prime steps b run vacant => ?_⟩
  · have formed := run.formed settled.coherent.formed
    have size : s.threads.length = capacity :=
      (run.length_eq settled.coherent.formed).trans length
    have reports : ∀ bytes, ¬ Stack.Oversized bytes → s.ready.toList.length < capacity →
        s.SpawnReports bytes map :=
      fun bytes small room => formed.spawnReports vacant (size ▸ room) small
    refine ⟨fun bytes small => ⟨reports bytes (Nat.not_lt_of_le small), ?_⟩, ?_, ?_, ?_⟩
    · intro program prime full
      rcases Stack.request_of_fits (Nat.not_lt_of_le small) map with
        ⟨reason, failed⟩ | ⟨stack, mapped⟩
      · exact .inl ⟨reason, spawn_refused vacant (Nat.not_lt_of_le small) failed⟩
      · exact .inr (formed.spawn_crowded vacant (full.trans size.symm) mapped)
    · intro bytes program prime long small
      have beyond := Nat.le_trans long (Stack.le_mappedLength bytes)
      exact spawn_refused vacant (Nat.not_lt_of_le small) (limited _ beyond)
    · exact fun bytes program prime large => spawn_fault vacant large
    · intro c bytes
      rcases c.withStackSize_cases bytes with ⟨inside, c', set, whole, same⟩ | ⟨last, fails⟩
      · refine ⟨fun small => ⟨c', set, reports _ fun large => ?_⟩, fun large _ => ⟨c', set, ?_⟩,
          fun last => absurd inside (Nat.not_le_of_lt last)⟩
        · exact Nat.not_lt_of_le small (same.mp large)
        · intro program prime
          rw [spawn_fault vacant (same.mpr large), if_pos whole]
      · have outside : ¬ bytes + pageSize ≤ 2 ^ 64 := Nat.not_le_of_lt last
        exact ⟨fun small => absurd small (by omega), fun _ inside => absurd inside outside,
          fun _ => fails⟩
  · have here := run.settled settled
    have size : b.scheduler.threads.length = capacity := (run.length_eq settled).trans length
    exact size ▸ here.coherent.room_of_vacant vacant

/-- A thread runs and a slot is free. Small stacks can be had, the largest size that has a mapping is
refused, and the one that the settings make of 5000 bytes can be had again. -/
theorem spawn_reports_below_last_pages_sizes :
    ∃ (start : Scheduler Unit) (moves : List (Move Unit)) (s : Scheduler Unit),
      1 ≤ 3 ∧ 3 < 2 ^ 60 ∧ Scheduler.new 3 = .ok start ∧ Moves start moves s ∧ ¬ s.Full ∧
        Limited (mapAt 65536) ∧ s.current = 1 ∧ s.ready.toList = [0] ∧
        s.SpawnReports 5000 (mapAt 65536) ∧
        s.spawn (some 8) (2 ^ 64 - 2 * pageSize) (mapAt 65536) (fun _ _ => none) =
          .ok (.error (.stackAllocation .outOfMemory), s) ∧
        s.spawn (some 8) (2 ^ 64 - pageSize) (mapAt 65536) (fun _ _ => none) =
          .error (.fault .addOverflow) ∧
        ∃ c', Config.withStackSize ⟨⟨1000, by decide⟩, 65536⟩ 5000 = .ok c' ∧
          s.SpawnReports c'.stackSize (mapAt 65536) := by
  obtain ⟨start, new, all, _⟩ :=
    spawn_reports_below_last_pages (κ := Unit) 3 (by decide) (by decide)
  obtain ⟨moves, b, played, current, queue, free⟩ :
      ∃ (moves : List (Move Unit)) (b : Bench Unit),
        playFresh (fun _ _ => none) 3 [.spawn (some 7) 16384 (mapAt 65536), .schedule] =
            .ok (moves, b) ∧ b.scheduler.current = 1 ∧ b.scheduler.ready.toList = [0] ∧
          (2 < b.scheduler.threads.length ∧ b.scheduler.state? 2 = some .unused) :=
    ⟨_, _, rfl, rfl, rfl, by decide, rfl⟩
  have run := playFresh_moves new _ played
  have vacant : ¬ b.scheduler.Full := fun full => full 2 (by decide) free.1 free.2
  obtain ⟨reports, long, large, sets⟩ := all moves b.scheduler run vacant _ (mapAt_limited 65536)
  have room : b.scheduler.ready.toList.length < 3 := by simp [queue]
  obtain ⟨c', set, answers⟩ := (sets ⟨⟨1000, by decide⟩, 65536⟩ 5000).1 (by decide)
  exact ⟨start, moves, b.scheduler, by decide, by decide, new, run, vacant, mapAt_limited 65536,
    current, queue, (reports 5000 (by decide)).1 room, long _ _ _ (by decide) (by decide),
    large _ _ _ (by decide), c', set, answers room⟩

/-- In the last two pages nobody is told: the spawn fails, and so does setting such a size. -/
theorem last_pages_overflow :
    ∃ s : Scheduler Unit, Scheduler.new 2 = .ok s ∧ ¬ s.Full ∧ s.ready.toList = [] ∧
      Limited (mapAt 65536) ∧ ¬ s.SpawnReports (2 ^ 64 - 1) (mapAt 65536) ∧
      s.spawn (some 7) (2 ^ 64 - 1) (mapAt 65536) (fun _ _ => none) =
        .error (.fault .mulOverflow) ∧
      s.spawn (some 7) (2 ^ 64 - pageSize) (mapAt 65536) (fun _ _ => none) =
        .error (.fault .addOverflow) ∧
      Config.withStackSize ⟨⟨1000, by decide⟩, 65536⟩ (2 ^ 64 - 1) =
        .error (.fault .mulOverflow) := by
  obtain ⟨s, new, free, queue⟩ : ∃ s : Scheduler Unit, Scheduler.new 2 = .ok s ∧
      (1 < s.threads.length ∧ s.state? 1 = some .unused) ∧ s.ready.toList = [] :=
    ⟨_, rfl, ⟨by decide, rfl⟩, rfl⟩
  have vacant : ¬ s.Full := fun full => full 1 (by decide) free.1 free.2
  have fails : s.spawn (some 7) (2 ^ 64 - 1) (mapAt 65536) (fun _ _ => none) =
      .error (.fault .mulOverflow) :=
    spawn_fault vacant (show 2 ^ 64 < 2 ^ 64 - 1 + 2 * pageSize by decide)
  refine ⟨s, new, vacant, queue, mapAt_limited 65536, fun reports => ?_, fails,
    spawn_fault vacant (show 2 ^ 64 < 2 ^ 64 - pageSize + 2 * pageSize by decide), rfl⟩
  rcases reports 7 fun _ _ => none with ⟨_, refused⟩ | ⟨_, _, _, _, admitted, _⟩
  · cases fails.symm.trans refused
  · cases fails.symm.trans admitted

end Scheduler

end RoundRobin
