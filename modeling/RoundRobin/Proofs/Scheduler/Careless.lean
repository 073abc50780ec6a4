import RoundRobin.Proofs.Scheduler.Discipline
import Mathlib.Data.List.Nodup

/-!
# Careless callers

A careless caller asks for anything in any order: it makes no decision when one is due, tears the
table down in the middle, and hands in whatever stack it likes. Its runs reach states in which a
number is queued twice, a thread runs without being current, or an unused slot gets the processor.

Two things survive. Indices stay inside the table, so a call that has no answer was given up by the
library itself. And the main thread is where it has to be: it runs if it is current, and otherwise
stands in the queue, once. So a decision always finds somebody. The one operation that could lose
the main thread is a teardown while somebody else is current.
-/

namespace RoundRobin.Scheduler

variable {κ : Type}

/-- One operation of a careless caller, with the stack in its hands and its way to prime a
thread. -/
structure Move (κ : Type) where
  before : Scheduler κ
  op : Op
  held : Option Stack
  prime : Tid → Stack → Option κ
  answer : Answer
  after : Scheduler κ

def Move.Valid (move : Move κ) : Prop :=
  ∃ held, Bench.apply ⟨move.before, move.held⟩ move.prime move.op =
    .ok (move.answer, ⟨move.after, held⟩)

/-- Operations one after the other. Nothing ties what is asked to what was answered before. -/
inductive Moves (start : Scheduler κ) : List (Move κ) → Scheduler κ → Prop where
  | none : Moves start [] start
  | more {moves : List (Move κ)} {move : Move κ} (earlier : Moves start moves move.before)
      (valid : move.Valid) : Moves start (moves ++ [move]) move.after

/-- Performs operations in order, whatever they answer, and keeps a record. -/
def play (prime : Tid → Stack → Option κ) (b : Bench κ) :
    List Op → Except Halt (List (Move κ) × Bench κ)
  | [] => .ok ([], b)
  | op :: ops => do
    let (answer, after) ← b.apply prime op
    let (moves, last) ← play prime after ops
    return (⟨b.scheduler, op, b.held, prime, answer, after.scheduler⟩ :: moves, last)

def playFresh (prime : Tid → Stack → Option κ) (capacity : Nat) (ops : List Op) :
    Except Halt (List (Move κ) × Bench κ) := do
  play prime (← Bench.new capacity) ops

variable {s s' start : Scheduler κ} {b b' : Bench κ} {prime : Tid → Stack → Option κ}
  {move : Move κ} {moves : List (Move κ)} {op : Op} {answer : Answer}

theorem play_moves {earlier : List (Move κ)} (before : Moves start earlier b.scheduler)
    (ops : List Op) (played : play prime b ops = .ok (moves, b')) :
    Moves start (earlier ++ moves) b'.scheduler := by
  induction ops generalizing b earlier moves with
  | nil =>
    simp only [play, Except.ok.injEq, Prod.mk.injEq] at played
    obtain ⟨rfl, rfl⟩ := played
    simpa using before
  | cons op ops ih =>
    simp only [play, bind_eq_ok, pure_eq_ok, Except.ok.injEq, Prod.mk.injEq, Prod.exists] at played
    obtain ⟨answer, after, applied, rest, last, played, rfl, rfl⟩ := played
    have valid : Move.Valid ⟨b.scheduler, op, b.held, prime, answer, after.scheduler⟩ :=
      ⟨after.held, applied⟩
    simpa using ih (.more before valid) played

theorem playFresh_moves {capacity : Nat} (new : Scheduler.new capacity = .ok start) (ops : List Op)
    (played : playFresh prime capacity ops = .ok (moves, b)) : Moves start moves b.scheduler := by
  have created : Bench.new capacity = .ok (⟨start, none⟩ : Bench κ) := by simp [Bench.new, new]
  rw [playFresh, created, ok_bind] at played
  exact play_moves .none ops played

/-- A step of a disciplined run is one move, or three if a decision follows. -/
theorem Step.Valid.careless {step : Step κ} (valid : step.Valid prime)
    (earlier : Moves start moves step.before.scheduler) :
    ∃ moves', Moves start moves' step.after.scheduler := by
  have asked : Move.Valid ⟨step.before.scheduler, step.op, step.before.held, prime, step.answer,
      step.middle.scheduler⟩ := ⟨step.middle.held, valid.applied⟩
  have reached := Moves.more earlier asked
  have settled := valid.settled
  unfold Bench.settle at settled
  split at settled
  · cases decided : step.middle.scheduler.schedule with
    | error halt => simp [Bench.decide, decided] at settled
    | ok result =>
      have scheduled : Move.Valid ⟨step.middle.scheduler, .schedule, none, prime,
          .switched result.1, result.2⟩ := ⟨none, by simp [Bench.apply, decided]⟩
      have taken : Move.Valid ⟨result.2, .takeParked, none, prime, .stack result.2.parked,
          result.2.takeParked.2⟩ := ⟨none, rfl⟩
      simp only [Bench.decide, decided, ok_bind, pure_eq_ok, Except.ok.injEq,
        Prod.mk.injEq] at settled
      rw [← settled.2]
      exact ⟨_, (reached.more scheduled).more taken⟩
  · simp only [Except.ok.injEq, Prod.mk.injEq] at settled
    rw [← settled.2]
    exact ⟨_, reached⟩

/-- A disciplined caller is a careless one who happens to take care. -/
theorem Run.careless {steps : List (Step κ)} (run : Run prime b steps b')
    (earlier : Moves start moves b.scheduler) : ∃ moves', Moves start moves' b'.scheduler := by
  induction run generalizing moves with
  | stop b => exact ⟨moves, earlier⟩
  | step valid rest ih =>
    obtain ⟨moves', reached⟩ := valid.careless earlier
    exact ih reached

theorem Update.formed {i : Tid} {old t : Thread κ} {queue : List Tid}
    (up : s.Update i t queue s') (formed : s.Formed) (slot : s.threads[i]? = some old)
    (number : t.tid = old.tid) (below : ∀ j ∈ queue, j < s.threads.length) : s'.Formed where
  numbered := by
    intro j u at_j
    by_cases same : j = i
    · subst j
      rw [up.here] at at_j
      rw [← Option.some.inj at_j, number]
      exact formed.numbered i old slot
    · rw [up.elsewhere same] at at_j
      exact formed.numbered j u at_j
  current_lt := by
    rw [up.current, up.length_eq]
    exact formed.current_lt
  ring := by
    rw [up.length_eq, up.queue_eq]
    exact up.ring
  queued_lt := by
    rw [up.length_eq, up.queue_eq]
    exact below

/-- A decision changes no number in the table, and its queue is part of the line. -/
theorem Decision.formed {switch : Switch} (dec : s.Decision switch s') (formed : s.Formed) :
    s'.Formed where
  numbered := by
    intro i u at_i
    obtain ⟨t, at_t, rfl⟩ : ∃ t, s.threads[i]? = some t ∧ s.turn switch.target i t = u := by
      simpa [dec.slots] using at_i
    obtain ⟨state, wakeAt, turned, _⟩ := s.turn_eq switch.target i t
    rw [turned]
    exact formed.numbered i t at_t
  current_lt := by
    rw [dec.current, dec.length_eq]
    exact formed.line_lt _ (by rw [dec.line]; exact List.mem_cons_self)
  ring := by
    rw [dec.length_eq]
    exact dec.ring
  queued_lt := by
    intro i queued
    rw [dec.length_eq]
    exact formed.line_lt i (by rw [dec.line]; exact List.mem_cons_of_mem _ queued)

theorem Effect.formed (effect : s.Effect op answer s') (formed : s.Formed) : s'.Formed := by
  have joined : ∀ {i : Tid}, i < s.threads.length →
      ∀ j ∈ s.ready.toList ++ [i], j < s.threads.length := by
    intro i inside j hj
    rcases List.mem_append.mp hj with queued | last
    · exact formed.queued_lt j queued
    · rw [List.mem_singleton.mp last]
      exact inside
  have left : ∀ {i : Tid}, ∀ j ∈ s.ready.toList.erase i, j < s.threads.length :=
    fun j hj => formed.queued_lt j (List.mem_of_mem_erase hj)
  cases effect with
  | refused | blockedAgain | resumedIdle => exact formed
  | endedMain => exact ⟨formed.numbered, formed.current_lt, formed.ring, formed.queued_lt⟩
  | decided dec _ => exact dec.formed formed
  | admitted _ _ _ _ slot _ up | resumedBlocked slot _ up =>
    exact up.formed formed slot rfl (joined up.inside)
  | blockedAsleep slot _ _ up | blockedRunning slot _ _ up | resumedAsleep slot _ up
  | slept slot _ _ _ up => exact up.formed formed slot rfl formed.queued_lt
  | blockedReady slot _ _ up => exact up.formed formed slot rfl left
  | endedOther slot _ _ _ up =>
    exact up.formed formed slot (formed.numbered _ _ slot).symm left
  | endedSelf slot _ _ up =>
    have next := up.formed formed slot (formed.numbered _ _ slot).symm formed.queued_lt
    exact ⟨next.numbered, next.current_lt, next.ring, next.queued_lt⟩

theorem releaseAll_slot {i : Tid} {t : Thread κ} (at_i : s.threads[i]? = some t) :
    s.releaseAll.2.threads[i]? = some (if i = 0 then t else Thread.unused t.tid) := by
  cases table : s.threads with
  | nil => simp [table] at at_i
  | cons main rest =>
    rw [table] at at_i
    cases i with
    | zero => simpa [releaseAll, table] using at_i
    | succ i =>
      have later : rest[i]? = some t := by simpa using at_i
      simp [releaseAll, table, Thread.release, later]

theorem releaseAll_length : s.releaseAll.2.threads.length = s.threads.length := by
  cases table : s.threads with
  | nil => simp [releaseAll, table]
  | cons main rest => simp [releaseAll, table]

/-- The same, read from the table that the teardown leaves. -/
theorem releaseAll_slot_inv {i : Tid} {u : Thread κ} (at_i : s.releaseAll.2.threads[i]? = some u) :
    ∃ t, s.threads[i]? = some t ∧ u = if i = 0 then t else Thread.unused t.tid := by
  have inside := (List.getElem?_eq_some_iff.mp at_i).1
  rw [releaseAll_length] at inside
  obtain ⟨t, slot⟩ := Coherent.slot_of_lt inside
  rw [releaseAll_slot slot] at at_i
  exact ⟨t, slot, (Option.some.inj at_i).symm⟩

theorem releaseAll_formed (formed : s.Formed) : s.releaseAll.2.Formed := by
  have empty := formed.ring.reset
  have queue : s.releaseAll.2.ready.toList = [] := empty.toList_eq
  refine ⟨?_, ?_, ?_, ?_⟩
  · intro i u at_i
    obtain ⟨t, slot, rfl⟩ := releaseAll_slot_inv at_i
    have numbered := formed.numbered i t slot
    by_cases first : i = 0
    · rwa [if_pos first]
    · rwa [if_neg first]
  · rw [releaseAll_length]
    exact formed.current_lt
  · rw [releaseAll_length, queue]
    exact empty
  · simp [queue]

theorem Change.formed (change : s.Change op answer s') (formed : s.Formed) : s'.Formed := by
  have left : ∀ {i : Tid}, ∀ j ∈ s.ready.toList.erase i, j < s.threads.length :=
    fun j hj => formed.queued_lt j (List.mem_of_mem_erase hj)
  cases change with
  | regular effect => exact effect.formed formed
  | blockedStray slot _ _ _ up => exact up.formed formed slot rfl left
  | blockedQueued slot _ _ up | sleptIdle slot _ _ up | restacked _ _ _ slot up =>
    exact up.formed formed slot rfl formed.queued_lt
  | endedCurrent slot _ _ up =>
    have next := up.formed formed slot (formed.numbered _ _ slot).symm left
    exact ⟨next.numbered, next.current_lt, next.ring, next.queued_lt⟩
  | handedOff slot up =>
    have next := up.formed formed slot rfl left
    exact ⟨next.numbered, Nat.zero_lt_of_lt next.current_lt, next.ring, next.queued_lt⟩
  | tookParked => exact ⟨formed.numbered, formed.current_lt, formed.ring, formed.queued_lt⟩
  | tornDown => exact releaseAll_formed formed
  | adoptedNothing => exact formed

/-- What was carried out on a formed state is one of the changes that can be. -/
theorem Move.Valid.change (valid : move.Valid) (formed : move.before.Formed) :
    move.before.Change move.op move.answer move.after := by
  obtain ⟨held, applied⟩ := valid
  have cases : Changes ⟨move.before, move.held⟩ move.prime move.op ∨ _ :=
    Formed.apply_cases formed move.op
  rcases cases with ⟨answer, s', held', applied', _, change⟩ | ⟨f, fault, _⟩ | ⟨full, _⟩ |
    ⟨_, empty, _⟩
  · have same := applied.symm.trans applied'
    simp only [Except.ok.injEq, Prod.mk.injEq, Bench.mk.injEq] at same
    obtain ⟨answers, after, _⟩ := same
    rw [answers, after]
    exact change
  · exact absurd (applied.symm.trans fault) (by simp)
  · exact absurd (applied.symm.trans full) (by simp)
  · exact absurd (applied.symm.trans empty) (by simp)

theorem Moves.formed (run : Moves start moves s) (formed : start.Formed) : s.Formed := by
  induction run with
  | none => exact formed
  | more earlier valid ih => exact (valid.change ih).formed ih

theorem Change.length_eq (change : s.Change op answer s') :
    s'.threads.length = s.threads.length := by
  cases change with
  | regular effect => exact effect.length_eq
  | blockedStray _ _ _ _ up | blockedQueued _ _ _ up | sleptIdle _ _ _ up | endedCurrent _ _ _ up
  | handedOff _ up | restacked _ _ _ _ up => exact up.length_eq
  | tookParked | adoptedNothing => rfl
  | tornDown => exact releaseAll_length

theorem Moves.length_eq (run : Moves start moves s) (formed : start.Formed) :
    s.threads.length = start.threads.length := by
  induction run with
  | none => rfl
  | more earlier valid ih => rw [(valid.change (earlier.formed formed)).length_eq, ih]

/-- Whatever is asked of a formed state, no index, sum or difference leaves its domain while the
counter and the length of a mapping fit into words: there is an answer, or the library gives up. -/
theorem Formed.answers_or_aborts (formed : b.scheduler.Formed) (op : Op)
    (inWord : b.scheduler.total < wordMax) (small : ¬ op.Oversized) :
    (∃ r, b.apply prime op = .ok r) ∨
      b.apply prime op = .error (.abort .queueOverflow) ∨
      b.apply prime op = .error (.abort .emptyQueue) := by
  have cases : Changes b prime op ∨ _ := formed.apply_cases op
  rcases cases with ⟨answer, s', held, applied, _⟩ | ⟨f, _, last | large⟩ | ⟨full, _⟩ |
    ⟨_, empty, _⟩
  · exact .inl ⟨_, applied⟩
  · exact absurd last.2 (Nat.not_le_of_lt inWord)
  · exact absurd large small
  · exact .inr (.inl full)
  · exact .inr (.inr empty)

/-- However careless the caller, slots keep their numbers, and the current and the queued threads
have slots. So every call is answered, or the library gives up in one of two wordings; the check and
a look at the queue always have an answer. Only the counter and the length of a mapping have to fit
into words. -/
theorem misuse_stays_inside (capacity : Nat) (one : 1 ≤ capacity) (fits : capacity < 2 ^ 60) :
    ∃ start : Scheduler κ, Scheduler.new capacity = .ok start ∧
      ∀ moves s, Moves start moves s →
        s.threads.length = capacity ∧
        (∀ (i : Tid) (t : Thread κ), s.threads[i]? = some t → t.tid = i) ∧
        s.current < capacity ∧
        (∀ i ∈ s.ready.toList, i < capacity) ∧
        (∀ (op : Op) (held : Option Stack) (prime : Tid → Stack → Option κ), s.total < wordMax →
          ¬ op.Oversized →
            (∃ answer b, Bench.apply ⟨s, held⟩ prime op = .ok (answer, b)) ∨
            ∃ a, Bench.apply ⟨s, held⟩ prime op = .error (.abort a) ∧
              (a.message = "ready queue overflow" ∨
                a.message = "scheduler invoked with an empty ready queue")) ∧
        (∃ verdict, s.invariantsHold = .ok verdict) ∧
        s.ready.entries = .ok s.ready.toList ∧
        ∀ tid, s.ready.contains tid = .ok (s.ready.toList.contains tid) := by
  obtain ⟨start, new, _, settled, size, _⟩ := new_scheduler (κ := κ) one fits
  refine ⟨start, new, fun moves s run => ?_⟩
  have formed := run.formed settled.coherent.formed
  have length : s.threads.length = capacity :=
    (run.length_eq settled.coherent.formed).trans size
  obtain ⟨verdict, checked, _⟩ := formed.check
  refine ⟨length, formed.numbered, length ▸ formed.current_lt, length ▸ formed.queued_lt, ?_,
    ⟨verdict, checked⟩, formed.ring.entries_eq, formed.ring.contains_eq⟩
  intro op held prime inWord small
  have ends : (∃ r, Bench.apply ⟨s, held⟩ prime op = .ok r) ∨ _ :=
    Formed.answers_or_aborts (b := ⟨s, held⟩) formed op inWord small
  rcases ends with ⟨⟨answer, b⟩, applied⟩ | full | empty
  · exact .inl ⟨answer, b, applied⟩
  · exact .inr ⟨_, full, .inl rfl⟩
  · exact .inr ⟨_, empty, .inr rfl⟩

/-- Thread 1 is blocked and lifted without giving up the processor until the queue is full of it,
and the next call finds no room; a number that nobody has is refused. In a second session the table
is torn down under thread 1, which is still current, and nobody is left to decide for. -/
theorem misuse_stays_inside_abandoned :
    (∃ (start : Scheduler Unit) (moves : List (Move Unit)) (s : Scheduler Unit),
      1 ≤ 3 ∧ 3 < 2 ^ 60 ∧ Scheduler.new 3 = .ok start ∧ Moves start moves s ∧
        s.ready.toList = [0, 1, 1] ∧ (∀ i ∈ s.ready.toList, i < 3) ∧ s.total < wordMax ∧
        ¬ Op.Oversized (.resume 1) ∧
        (∃ a, Bench.apply ⟨s, none⟩ (fun _ _ => none) (.resume 1) = .error (.abort a) ∧
          (a.message = "ready queue overflow" ∨
            a.message = "scheduler invoked with an empty ready queue")) ∧
        ∃ b, Bench.apply ⟨s, none⟩ (fun _ _ => none) (.terminate wordMax) =
          .ok (.refused (.invalidTid wordMax), b)) ∧
    ∃ (start : Scheduler Unit) (moves : List (Move Unit)) (s : Scheduler Unit),
      1 ≤ 2 ∧ 2 < 2 ^ 60 ∧ Scheduler.new 2 = .ok start ∧ Moves start moves s ∧
        s.current = 1 ∧ s.state? 1 = some .unused ∧ s.total < wordMax ∧
        ¬ Op.Oversized .schedule ∧
        ∃ a, Bench.apply ⟨s, none⟩ (fun _ _ => none) .schedule = .error (.abort a) ∧
          (a.message = "ready queue overflow" ∨
            a.message = "scheduler invoked with an empty ready queue") := by
  constructor
  · obtain ⟨start, new, all⟩ := misuse_stays_inside (κ := Unit) 3 (by decide) (by decide)
    obtain ⟨moves, b, played, queue, inWord, halted, refused⟩ :
      ∃ (moves : List (Move Unit)) (b : Bench Unit),
        playFresh (fun _ _ => none) 3
            [.spawn (some 7) 4096 (mapAt 65536), .schedule, .block 1, .resume 1, .block 1,
              .resume 1, .block 1] = .ok (moves, b) ∧
          b.scheduler.ready.toList = [0, 1, 1] ∧ b.scheduler.total < wordMax ∧
          (Bench.apply ⟨b.scheduler, none⟩ (fun _ _ => none) (.resume 1)).isOk = false ∧
          ∃ b', Bench.apply ⟨b.scheduler, none⟩ (fun _ _ => none) (.terminate wordMax) =
            .ok (.refused (.invalidTid wordMax), b') :=
      ⟨_, _, rfl, rfl, by decide, rfl, _, rfl⟩
    have run := playFresh_moves new _ played
    obtain ⟨_, _, _, queued, answered, _⟩ := all moves b.scheduler run
    have ends := answered (.resume 1) none (fun _ _ => none) inWord id
    refine ⟨start, moves, b.scheduler, by decide, by decide, new, run, queue, queued, inWord, id,
      ends.resolve_left ?_, refused⟩
    rintro ⟨answer, b', applied⟩
    simp [applied, Except.isOk, Except.toBool] at halted
  · obtain ⟨start, new, all⟩ := misuse_stays_inside (κ := Unit) 2 (by decide) (by decide)
    obtain ⟨moves, b, played, current, blank, inWord, halted⟩ :
      ∃ (moves : List (Move Unit)) (b : Bench Unit),
        playFresh (fun _ _ => none) 2
            [.spawn (some 7) 4096 (mapAt 65536), .schedule, .releaseAll] = .ok (moves, b) ∧
          b.scheduler.current = 1 ∧ b.scheduler.state? 1 = some .unused ∧
          b.scheduler.total < wordMax ∧
          (Bench.apply ⟨b.scheduler, none⟩ (fun _ _ => none) .schedule).isOk = false :=
      ⟨_, _, rfl, rfl, rfl, by decide, rfl⟩
    have run := playFresh_moves new _ played
    obtain ⟨_, _, _, _, answered, _⟩ := all moves b.scheduler run
    have ends := answered .schedule none (fun _ _ => none) inWord id
    refine ⟨start, moves, b.scheduler, by decide, by decide, new, run, current, blank, inWord, id,
      ends.resolve_left ?_⟩
    rintro ⟨answer, b', applied⟩
    simp [applied, Except.isOk, Except.toBool] at halted

def MainAwake (s : Scheduler κ) : Prop :=
  s.state? 0 = some (if s.current = 0 then .running else .ready)

/-- How many places the main thread has: the processor if it is current, and its places in the
queue. -/
def mainPlaces (s : Scheduler κ) : Nat :=
  s.ready.toList.count 0 + if s.current = 0 then 1 else 0

namespace MainAwake

theorem cases (awake : s.MainAwake) {main : Thread κ} (slot : s.threads[0]? = some main) :
    main.state = .running ∨ main.state = .ready := by
  have state : main.state = if s.current = 0 then .running else .ready := by
    simpa [MainAwake, state?, slot] using awake
  by_cases current : s.current = 0
  · exact .inl (by rw [state, if_pos current])
  · exact .inr (by rw [state, if_neg current])

theorem not_due (awake : s.MainAwake) {main : Thread κ} (slot : s.threads[0]? = some main)
    (now : Nat) : ¬ main.isDue now := by
  intro due
  rcases awake.cases slot with h | h <;> simpa [h] using Thread.asleep_of_due due

/-- In every line the main thread has as many places. -/
theorem count_line (awake : s.MainAwake) (formed : s.Formed) : s.line.count 0 = s.mainPlaces := by
  have notWoken : (wokenBy s.total s.threads).count 0 = 0 := by
    rw [List.count_eq_zero]
    intro woken
    obtain ⟨t, mem, due, _, zero⟩ := mem_wokenBy.mp woken
    obtain ⟨i, at_i⟩ := List.getElem?_of_mem mem
    have first : i = 0 := (formed.numbered i t at_i).symm.trans zero
    exact awake.not_due (first ▸ at_i) s.total due
  have preempted : s.preempted.count 0 = if s.current = 0 then 1 else 0 := by
    unfold Scheduler.preempted
    by_cases current : s.current = 0
    · have running : s.state? 0 = some .running := awake.trans (by rw [if_pos current])
      simp [current, running]
    · split <;> simp [current]
  rw [line, List.count_append, List.count_append, notWoken, preempted, mainPlaces, Nat.add_zero]

theorem decide {switch : Switch} (awake : s.MainAwake) (formed : s.Formed)
    (dec : s.Decision switch s') : s'.MainAwake := by
  obtain ⟨main, slot⟩ := Coherent.slot_of_lt (Nat.zero_lt_of_lt formed.current_lt)
  have state : main.state = if s.current = 0 then .running else .ready := by
    simpa [MainAwake, state?, slot] using awake
  have rested := Thread.expired_of_not_due (awake.not_due slot s.total)
  unfold MainAwake
  rw [state?, dec.slots, slot, dec.current]
  by_cases picked : switch.target = 0
  · simp [turn, picked, Thread.markRunning]
  · by_cases current : s.current = 0
    · simp [turn, Ne.symm picked, picked, rested, current, state, Thread.markReady]
    · simp [turn, Ne.symm picked, picked, rested, current, state]

/-- A decision gives the main thread no place and takes none from it. -/
theorem places_decided {switch : Switch} (awake : s.MainAwake) (formed : s.Formed)
    (dec : s.Decision switch s') : s'.mainPlaces = s.mainPlaces := by
  have count := awake.count_line formed
  rw [dec.line, List.count_cons] at count
  rw [← count, mainPlaces, dec.current]
  simp only [beq_iff_eq]

end MainAwake

structure SparesMain (s s' : Scheduler κ) : Prop where
  state : s'.state? 0 = s.state? 0
  queued : s'.ready.toList.count 0 = s.ready.toList.count 0
  current : s'.current = s.current

/-- What a change can mean for the main thread: nothing, or it is considered with everybody else in
a decision, or given the processor; or the queue is emptied. -/
inductive OnMain (s : Scheduler κ) (op : Op) (s' : Scheduler κ) : Prop where
  | spared (same : s.SparesMain s')
  | decided (switch : Switch) (dec : s.Decision switch s')
  | handedOff (current : s'.current = 0) (running : s'.state? 0 = some .running)
      (queue : s'.ready.toList = s.ready.toList.erase 0)
  | tornDown (asked : op = .releaseAll) (state : s'.state? 0 = s.state? 0)
      (queue : s'.ready.toList = []) (current : s'.current = s.current)

/-- Only a change to the main thread itself can do harm. -/
theorem Update.sparesMain {i : Tid} {old t : Thread κ} {queue : List Tid}
    (up : s.Update i t queue s') (slot : s.threads[i]? = some old)
    (same : i = 0 → t.state = old.state) (count : queue.count 0 = s.ready.toList.count 0) :
    s.SparesMain s' where
  state := by
    by_cases main : i = 0
    · subst main
      simp [state?, up.here, slot, same rfl]
    · rw [state?, state?, up.elsewhere (Ne.symm main)]
  queued := by rw [up.queue_eq, count]
  current := up.current

theorem Effect.onMain (effect : s.Effect op answer s') (awake : s.MainAwake) : s.OnMain op s' := by
  have joined : ∀ {i : Tid}, i ≠ 0 →
      (s.ready.toList ++ [i]).count 0 = s.ready.toList.count 0 := by
    intro i other
    simp [List.count_append, other]
  have left : ∀ {i : Tid}, i ≠ 0 →
      (s.ready.toList.erase i).count 0 = s.ready.toList.count 0 :=
    fun other => List.count_erase_of_ne (Ne.symm other)
  -- A main thread that runs or waits is neither blocked nor asleep, so it cannot be resumed.
  have spawned : ∀ {i : Tid} {t : Thread κ}, s.threads[i]? = some t →
      t.state = .blocked ∨ t.state = .sleepBlocked → i ≠ 0 := by
    rintro i t slot held rfl
    rcases awake.cases slot with h | h <;> simp [h] at held
  cases effect with
  | refused | blockedAgain | resumedIdle | endedMain => exact .spared ⟨rfl, rfl, rfl⟩
  | decided dec _ => exact .decided _ dec
  | admitted _ _ _ other slot _ up =>
    exact .spared (up.sparesMain slot (fun main => absurd main other) (joined other))
  | resumedBlocked slot blocked up =>
    have other := spawned slot (.inl blocked)
    exact .spared (up.sparesMain slot (fun main => absurd main other) (joined other))
  | resumedAsleep slot asleep up =>
    have other := spawned slot (.inr asleep)
    exact .spared (up.sparesMain slot (fun main => absurd main other) rfl)
  | blockedAsleep slot other _ up | blockedRunning slot other _ up | slept slot other _ _ up =>
    exact .spared (up.sparesMain slot (fun main => absurd main other) rfl)
  | blockedReady slot other _ up | endedOther slot other _ _ up =>
    exact .spared (up.sparesMain slot (fun main => absurd main other) (left other))
  | endedSelf slot other _ up =>
    have same := up.sparesMain slot (fun main => absurd main other) rfl
    exact .spared ⟨same.state, same.queued, same.current⟩

theorem Change.onMain (change : s.Change op answer s') (formed : s.Formed) (awake : s.MainAwake) :
    s.OnMain op s' := by
  cases change with
  | regular effect => exact effect.onMain awake
  | blockedStray slot other _ _ up =>
    exact .spared (up.sparesMain slot (fun main => absurd main other)
      (List.count_erase_of_ne (Ne.symm other)))
  | blockedQueued slot other _ up | sleptIdle slot other _ up =>
    exact .spared (up.sparesMain slot (fun main => absurd main other) rfl)
  | endedCurrent slot other _ up =>
    have same := up.sparesMain slot (fun main => absurd main other)
      (List.count_erase_of_ne (Ne.symm other))
    exact .spared ⟨same.state, same.queued, same.current⟩
  | handedOff slot up => exact .handedOff rfl (by simp [state?, up.here]) up.queue_eq
  | tookParked | adoptedNothing => exact .spared ⟨rfl, rfl, rfl⟩
  | tornDown =>
    obtain ⟨main, slot⟩ := Coherent.slot_of_lt (Nat.zero_lt_of_lt formed.current_lt)
    refine .tornDown rfl ?_ formed.ring.reset.toList_eq rfl
    rw [state?, state?, releaseAll_slot slot, slot]
    rfl
  | restacked stack _ _ slot up => exact .spared (up.sparesMain slot (fun _ => rfl) rfl)

namespace OnMain

theorem awake (on : s.OnMain op s') (formed : s.Formed) (before : s.MainAwake) :
    s'.MainAwake := by
  cases on with
  | spared same => rw [MainAwake, same.state, same.current, before]
  | decided switch dec => exact before.decide formed dec
  | handedOff current running => rw [MainAwake, running, if_pos current]
  | tornDown _ state _ current => rw [MainAwake, state, current, before]

/-- The main thread never has two places. -/
theorem places_le (on : s.OnMain op s') (formed : s.Formed) (awake : s.MainAwake)
    (once : s.mainPlaces ≤ 1) : s'.mainPlaces ≤ 1 := by
  cases on with
  | spared same => rwa [mainPlaces, same.queued, same.current]
  | decided switch dec => rwa [awake.places_decided formed dec]
  | handedOff current _ queue =>
    have count : s.ready.toList.count 0 ≤ 1 := Nat.le_trans (Nat.le_add_right _ _) once
    rw [mainPlaces, queue, List.count_erase_self, if_pos current]
    omega
  | tornDown _ _ queue _ =>
    rw [mainPlaces, queue, List.count_nil]
    split <;> omega

/-- Unless the queue is emptied while it waits there, the main thread keeps its place. -/
theorem places_pos (on : s.OnMain op s') (formed : s.Formed) (awake : s.MainAwake)
    (guarded : op = .releaseAll → s.current = 0) (kept : 1 ≤ s.mainPlaces) : 1 ≤ s'.mainPlaces := by
  cases on with
  | spared same => rwa [mainPlaces, same.queued, same.current]
  | decided switch dec => rwa [awake.places_decided formed dec]
  | handedOff current =>
    rw [mainPlaces, if_pos current]
    exact Nat.le_add_left _ _
  | tornDown asked _ _ current =>
    rw [mainPlaces, current, if_pos (guarded asked)]
    exact Nat.le_add_left _ _

end OnMain

/-- However careless the caller, the main thread is awake and stands nowhere twice. -/
theorem Moves.main_once (run : Moves start moves s) (formed : start.Formed)
    (awake : start.MainAwake) (once : start.mainPlaces ≤ 1) : s.MainAwake ∧ s.mainPlaces ≤ 1 := by
  induction run with
  | none => exact ⟨awake, once⟩
  | more earlier valid ih =>
    have here := earlier.formed formed
    have on := (valid.change here).onMain here ih.1
    exact ⟨on.awake here ih.1, on.places_le here ih.1 ih.2⟩

theorem Moves.main_kept (run : Moves start moves s) (formed : start.Formed)
    (awake : start.MainAwake) (once : start.mainPlaces ≤ 1) (kept : 1 ≤ start.mainPlaces)
    (guarded : ∀ move ∈ moves, move.op = .releaseAll → move.before.current = 0) :
    1 ≤ s.mainPlaces := by
  induction run with
  | none => exact kept
  | @more moves move earlier valid ih =>
    have here := earlier.formed formed
    have before := (earlier.main_once formed awake once).1
    have on := (valid.change here).onMain here before
    exact on.places_pos here before (guarded move (by simp))
      (ih fun m hm => guarded m (List.mem_append_left _ hm))

/-- The main thread runs if it is current, and stands in the queue once if it is not. -/
structure KeepsMain (s : Scheduler κ) : Prop where
  state : s.state? 0 = some (if s.current = 0 then .running else .ready)
  queued : s.ready.toList.count 0 = if s.current = 0 then 0 else 1

theorem keepsMain_iff : s.KeepsMain ↔ s.MainAwake ∧ s.mainPlaces = 1 := by
  have queued_iff : s.mainPlaces = 1 ↔
      s.ready.toList.count 0 = if s.current = 0 then 0 else 1 := by
    unfold mainPlaces
    split <;> omega
  rw [queued_iff]
  exact ⟨fun keeps => ⟨keeps.state, keeps.queued⟩, fun both => ⟨both.1, both.2⟩⟩

theorem KeepsMain.count_line (keeps : s.KeepsMain) (formed : s.Formed) : s.line.count 0 = 1 := by
  obtain ⟨awake, once⟩ := keepsMain_iff.mp keeps
  exact (awake.count_line formed).trans once

theorem Moves.keepsMain (run : Moves start moves s) (formed : start.Formed)
    (keeps : start.KeepsMain)
    (guarded : ∀ move ∈ moves, move.op = .releaseAll → move.before.current = 0) :
    s.KeepsMain := by
  obtain ⟨awake, placed⟩ := keepsMain_iff.mp keeps
  obtain ⟨awake', once⟩ := run.main_once formed awake placed.le
  have kept := run.main_kept formed awake placed.le placed.ge guarded
  exact keepsMain_iff.mpr ⟨awake', Nat.le_antisymm once kept⟩

/-- A disciplined caller keeps the main thread as well. -/
theorem Settled.keepsMain (settled : s.Settled) : s.KeepsMain := by
  have coh := settled.coherent
  obtain ⟨main, slot⟩ := Coherent.slot_of_lt (Nat.zero_lt_of_lt coh.current_lt)
  have running_iff := coh.running_iff settled.runs 0
  have queued_iff := coh.queued_iff 0
  by_cases current : s.current = 0
  · have running := running_iff.mpr current.symm
    have absent : 0 ∉ s.ready.toList := fun queued => by simpa [running] using queued_iff.mp queued
    exact ⟨by rw [running, if_pos current], by rw [if_pos current, List.count_eq_zero.mpr absent]⟩
  · have ready : s.state? 0 = some .ready := by
      rcases (coh.slots 0 main slot).main rfl with running | ready
      · exact absurd (running_iff.mp (state?_eq_some.mpr ⟨main, slot, running⟩)) (Ne.symm current)
      · exact state?_eq_some.mpr ⟨main, slot, ready⟩
    have once := List.count_eq_one_of_mem coh.nodup (queued_iff.mpr ready)
    exact ⟨by rw [ready, if_neg current], by rw [if_neg current, once]⟩

theorem stateOf_main (formed : s.Formed) (state : ThreadState) :
    s.stateOf 0 = .ok state ↔ s.state? 0 = some state := by
  obtain ⟨main, slot⟩ := Coherent.slot_of_lt (Nat.zero_lt_of_lt formed.current_lt)
  simp [stateOf, thread, state?, slot, Except.map]

/-- However careless the caller, the main thread is never lost: it runs exactly when it is current
and is otherwise ready; it stands in the queue once when it is ready and not at all when it runs;
and so no decision finds the queue empty. The caller has only to leave the table alone while
somebody else than the main thread is current. -/
theorem main_never_lost (capacity : Nat) (one : 1 ≤ capacity) (fits : capacity < 2 ^ 60) :
    ∃ start : Scheduler κ, Scheduler.new capacity = .ok start ∧
      ∀ moves s, Moves start moves s →
        (∀ move ∈ moves, move.op = .releaseAll → move.before.current = 0) →
          (s.stateOf 0 = .ok .running ∨ s.stateOf 0 = .ok .ready) ∧
          (s.stateOf 0 = .ok .running ↔ s.current = 0) ∧
          (s.stateOf 0 = .ok .ready ↔ s.ready.toList.count 0 = 1) ∧
          (s.stateOf 0 = .ok .running ↔ s.ready.toList.count 0 = 0) ∧
          s.schedule ≠ .error (.abort .emptyQueue) := by
  obtain ⟨start, new, _, settled, _⟩ := new_scheduler (κ := κ) one fits
  refine ⟨start, new, fun moves s run guarded => ?_⟩
  have formed := run.formed settled.coherent.formed
  have keeps := run.keepsMain settled.coherent.formed settled.keepsMain guarded
  have somebody : s.schedule ≠ .error (.abort .emptyQueue) := by
    intro empty
    have count := keeps.count_line formed
    rcases formed.schedule_cases with ⟨_, _, h, _⟩ | ⟨_, h⟩ | ⟨_, h⟩ | ⟨nobody, _⟩
    · simp [h] at empty
    · simp [h] at empty
    · simp [h] at empty
    · simp [nobody] at count
  rw [stateOf_main formed, stateOf_main formed, keeps.state, keeps.queued]
  by_cases current : s.current = 0
  · simpa [current] using somebody
  · simpa [current] using somebody

/-- Thread 1 is blocked and lifted again without giving up the processor, so that it is current and
queued at once; then it ends, and still the main thread waits its turn. -/
theorem main_never_lost_misused :
    ∃ (start : Scheduler Unit) (moves : List (Move Unit)) (s : Scheduler Unit),
      1 ≤ 3 ∧ 3 < 2 ^ 60 ∧ Scheduler.new 3 = .ok start ∧ Moves start moves s ∧
        (∀ move ∈ moves, move.op = .releaseAll → move.before.current = 0) ∧
        s.invariantsHold = .ok false ∧ s.current = 1 ∧ s.stateOf 0 = .ok .ready ∧
        s.schedule ≠ .error (.abort .emptyQueue) := by
  obtain ⟨start, new, all⟩ := main_never_lost (κ := Unit) 3 (by decide) (by decide)
  obtain ⟨moves, b, played, guarded, broken, current⟩ :
    ∃ (moves : List (Move Unit)) (b : Bench Unit),
      playFresh (fun _ _ => none) 3
          [.releaseAll, .spawn (some 7) 4096 (mapAt 65536), .schedule, .block 1, .resume 1,
            .terminate 1] = .ok (moves, b) ∧
        (∀ move ∈ moves, move.op = .releaseAll → move.before.current = 0) ∧
        b.scheduler.invariantsHold = .ok false ∧ b.scheduler.current = 1 :=
    ⟨_, _, rfl, by simp, rfl, rfl⟩
  have run := playFresh_moves new _ played
  obtain ⟨either, running, _, _, somebody⟩ := all moves b.scheduler run guarded
  have ready := either.resolve_left fun h => by simp [running.mp h] at current
  exact ⟨start, moves, b.scheduler, by decide, by decide, new, run, guarded, broken, current, ready,
    somebody⟩

end RoundRobin.Scheduler
