import RoundRobin.Proofs.Scheduler.Careless
import Mathlib.Data.List.DropRight
import Mathlib.Data.List.Perm.Basic
import Mathlib.Algebra.BigOperators.Group.List.Basic

/-!
# Turns are accounted for

Every decision begins one turn, and every turn is on the account of one slot. A slot's account is
closed when the slot is released, and its turns are forgotten then. So the counter is the sum of
the accounts and of what was forgotten, whether the caller is disciplined or not.

`Booking` says what one operation does to the accounts; the statements about runs follow from it.
-/

namespace RoundRobin.Scheduler

variable {κ : Type}

def turns (s : Scheduler κ) : List Nat := s.threads.map Thread.quanta

def Op.isDecision : Op → Bool
  | .schedule => true
  | _ => false

namespace Move

def dispatches (i : Tid) (move : Move κ) : Bool :=
  match move.op, move.answer with
  | .schedule, .switched switch => switch.target == i
  | _, _ => false

/-- Whether slot `i` counts from the beginning again: it was given to a new thread or released. -/
def renews (i : Tid) (move : Move κ) : Bool :=
  match move.op, move.answer with
  | .spawn .., .spawned tid => tid == i
  | .terminate tid, .ended (.removed _) | .terminate tid, .ended .ownEnd => tid == i
  | .releaseAll, .tornDown _ => i != 0
  | _, _ => false

/-- The turns that are forgotten with the slots that the operation releases. -/
def forgotten (move : Move κ) : Nat :=
  match move.op, move.answer with
  | .terminate tid, .ended (.removed _) | .terminate tid, .ended .ownEnd =>
    move.before.turns[tid]?.getD 0
  | .releaseAll, .tornDown _ => move.before.turns.tail.sum
  | _, _ => 0

/-- What one operation does to the accounts: nothing, one turn more, one account begun anew, or all
accounts but the main thread's. -/
inductive Booking (move : Move κ) : Prop where
  | nothing (turns : move.after.turns = move.before.turns)
      (total : move.after.total = move.before.total) (op : move.op.isDecision = false)
      (renews : ∀ i, move.renews i = false) (forgotten : move.forgotten = 0)
  | turn (target : Tid) (count : Nat) (slot : move.before.turns[target]? = some count)
      (turns : move.after.turns = move.before.turns.set target (count + 1))
      (total : move.after.total = move.before.total + 1) (op : move.op.isDecision = true)
      (dispatches : ∀ i, move.dispatches i = (target == i))
      (renews : ∀ i, move.renews i = false) (forgotten : move.forgotten = 0)
  | renewed (tid : Tid) (count : Nat) (spawned : tid ≠ 0)
      (slot : move.before.turns[tid]? = some count)
      (turns : move.after.turns = move.before.turns.set tid 0)
      (total : move.after.total = move.before.total) (op : move.op.isDecision = false)
      (renews : ∀ i, move.renews i = (tid == i)) (forgotten : move.forgotten = count)
  | cleared
      (turns : move.after.turns =
        move.before.turns.take 1 ++ move.before.turns.tail.map fun _ => 0)
      (total : move.after.total = move.before.total) (op : move.op.isDecision = false)
      (renews : ∀ i, move.renews i = (i != 0))
      (forgotten : move.forgotten = move.before.turns.tail.sum)

end Move

variable {s s' start : Scheduler κ} {move : Move κ} {moves : List (Move κ)} {op : Op}
  {answer : Answer}

theorem Move.dispatches_eq_false {i : Tid} (op : move.op.isDecision = false) :
    move.dispatches i = false := by
  unfold dispatches
  split
  · next asked _ => simp [asked, Op.isDecision] at op
  · rfl

def Blank (s : Scheduler κ) : Prop := ∀ t ∈ s.threads, t.state = .unused → t.quanta = 0

theorem turns_slot {i : Tid} {t : Thread κ} (slot : s.threads[i]? = some t) :
    s.turns[i]? = some t.quanta := by
  simp [turns, slot]

namespace Update

variable {i : Tid} {old t : Thread κ} {queue : List Tid}

theorem turns (up : s.Update i t queue s') : s'.turns = s.turns.set i t.quanta := by
  rw [Scheduler.turns, up.threads, List.map_set, Scheduler.turns]

theorem turns_same (up : s.Update i t queue s') (slot : s.threads[i]? = some old)
    (same : t.quanta = old.quanta) : s'.turns = s.turns := by
  obtain ⟨inside, here⟩ := List.getElem?_eq_some_iff.mp (turns_slot slot)
  rw [up.turns, same, ← here, List.set_getElem_self]

end Update

/-- A decision adds a turn to the account of the thread it picks, and the account cannot be full
before the counter is. -/
theorem Decision.turns {switch : Switch} (dec : s.Decision switch s') (formed : s.Formed)
    (bounded : ∀ count ∈ s.turns, count ≤ s.total) :
    ∃ count, s.turns[switch.target]? = some count ∧
      s'.turns = s.turns.set switch.target (count + 1) := by
  have inside : switch.target < s.threads.length :=
    formed.line_lt _ (by rw [dec.line]; exact List.mem_cons_self)
  obtain ⟨t, slot⟩ := Coherent.slot_of_lt inside
  have small : t.quanta ≤ s.total := bounded _ (List.mem_of_getElem? (turns_slot slot))
  have exact : addSaturating t.quanta 1 = t.quanta + 1 := by
    have inWord := dec.inWord
    unfold addSaturating
    omega
  refine ⟨t.quanta, turns_slot slot, ?_⟩
  apply List.ext_getElem?
  intro i
  rw [Scheduler.turns, List.getElem?_map, dec.slots]
  obtain ⟨_, _, turned, _⟩ := s.turn_eq switch.target i t
  by_cases picked : i = switch.target
  · subst picked
    have inside : switch.target < s.turns.length := by simpa [Scheduler.turns] using inside
    simp [slot, turned, exact, inside]
  · rw [List.getElem?_set_ne (Ne.symm picked), Scheduler.turns, List.getElem?_map]
    cases s.threads[i]? with
    | none => rfl
    | some u =>
      obtain ⟨_, _, turned, _⟩ := s.turn_eq switch.target i u
      simp [turned, picked]

theorem releaseAll_turns :
    s.releaseAll.2.turns = s.turns.take 1 ++ s.turns.tail.map fun _ => 0 := by
  simp [turns, releaseAll, Thread.release, Thread.unused, Function.comp_def, List.map_take]

theorem Effect.booking {held : Option Stack} {prime : Tid → Stack → Option κ}
    (effect : s.Effect op answer s') (formed : s.Formed) (blank : s.Blank)
    (bounded : ∀ count ∈ s.turns, count ≤ s.total) :
    Move.Booking ⟨s, op, held, prime, answer, s'⟩ := by
  cases effect with
  | refused e asked =>
    refine .nothing rfl rfl ?_ ?_ ?_
    · cases op <;> simp_all [Op.isDecision]
    · cases op <;> simp [Move.renews]
    · cases op <;> simp [Move.forgotten]
  | blockedAgain | resumedIdle | endedMain => exact .nothing rfl rfl rfl (fun _ => rfl) rfl
  | blockedAsleep slot _ _ up | blockedReady slot _ _ up | blockedRunning slot _ _ up
  | resumedBlocked slot _ up | resumedAsleep slot _ up | slept slot _ _ _ up =>
    exact .nothing (up.turns_same slot rfl) up.total rfl (fun _ => rfl) rfl
  | decided dec parked =>
    obtain ⟨count, slot, turns⟩ := dec.turns formed bounded
    exact .turn _ count slot turns dec.total rfl (fun _ => rfl) (fun _ => rfl) rfl
  | admitted program stack context spawned spare unused up =>
    have empty := blank _ (List.mem_of_getElem? spare) unused
    exact .renewed _ 0 spawned (empty ▸ turns_slot spare) up.turns up.total rfl (fun _ => rfl) rfl
  | endedOther slot spawned used other up =>
    refine .renewed _ _ spawned (turns_slot slot) up.turns up.total rfl (fun _ => rfl) ?_
    simp [Move.forgotten, turns_slot slot]
  | endedSelf slot spawned running up =>
    refine .renewed _ _ spawned (turns_slot slot) up.turns up.total rfl (fun _ => rfl) ?_
    simp [Move.forgotten, turns_slot slot]

theorem Move.Valid.booking (valid : move.Valid) (formed : move.before.Formed)
    (blank : move.before.Blank)
    (bounded : ∀ count ∈ move.before.turns, count ≤ move.before.total) : move.Booking := by
  obtain ⟨s, op, held, prime, answer, s'⟩ := move
  have change : s.Change op answer s' := valid.change formed
  cases change with
  | regular effect => exact effect.booking formed blank bounded
  | blockedStray slot _ _ _ up | blockedQueued slot _ _ up | sleptIdle slot _ _ up =>
    exact .nothing (up.turns_same slot rfl) up.total rfl (fun _ => rfl) rfl
  | endedCurrent slot spawned used up =>
    refine .renewed _ _ spawned (turns_slot slot) up.turns up.total rfl (fun _ => rfl) ?_
    simp [Move.forgotten, turns_slot slot]
  | handedOff slot up =>
    exact .nothing (up.turns_same slot rfl) up.total rfl (fun _ => rfl) rfl
  | tookParked | adoptedNothing => exact .nothing rfl rfl rfl (fun _ => rfl) rfl
  | tornDown => exact .cleared releaseAll_turns rfl rfl (fun _ => rfl) rfl
  | restacked stack given asked slot up =>
    have turns := up.turns_same slot rfl
    rcases asked with rfl | rfl | rfl <;> exact .nothing turns up.total rfl (fun _ => rfl) rfl

theorem Update.blank {i : Tid} {t : Thread κ} {queue : List Tid} (up : s.Update i t queue s')
    (blank : s.Blank) (slot : t.state = .unused → t.quanta = 0) : s'.Blank := by
  intro u mem unused
  rw [up.threads] at mem
  rcases List.mem_or_eq_of_mem_set mem with old | rfl
  · exact blank u old unused
  · exact slot unused

theorem Decision.blank {switch : Switch} (dec : s.Decision switch s') (blank : s.Blank) :
    s'.Blank := by
  intro u mem unused
  obtain ⟨i, at_i⟩ := List.getElem?_of_mem mem
  obtain ⟨t, slot, rfl⟩ : ∃ t, s.threads[i]? = some t ∧ s.turn switch.target i t = u := by
    simpa [dec.slots] using at_i
  obtain ⟨state, wakeAt, turned, ended⟩ := s.turn_eq switch.target i t
  rw [turned] at unused ⊢
  obtain ⟨before, other⟩ := ended.mp unused
  simpa [other] using blank t (List.mem_of_getElem? slot) before

theorem Change.blank (change : s.Change op answer s') (blank : s.Blank) : s'.Blank := by
  cases change with
  | regular effect =>
    cases effect with
    | refused | blockedAgain | resumedIdle | endedMain => exact blank
    | decided dec _ => exact dec.blank blank
    | admitted _ _ _ _ _ _ up | blockedAsleep _ _ _ up | blockedReady _ _ _ up
    | blockedRunning _ _ _ up | resumedBlocked _ _ up | resumedAsleep _ _ up | slept _ _ _ _ up =>
      exact up.blank blank (by simp [Thread.putToSleep])
    | endedOther _ _ _ _ up | endedSelf _ _ _ up => exact up.blank blank fun _ => rfl
  | blockedStray _ _ _ _ up | blockedQueued _ _ _ up | sleptIdle _ _ _ up | handedOff _ up =>
    exact up.blank blank (by simp [Thread.putToSleep])
  | endedCurrent _ _ _ up => exact up.blank blank fun _ => rfl
  | tookParked | adoptedNothing => exact blank
  | tornDown =>
    intro u mem unused
    have table : u ∈ s.threads.take 1 ++ s.threads.tail.map fun t => t.release.2 := mem
    rcases List.mem_append.mp table with main | other
    · exact blank u (List.mem_of_mem_take main) unused
    · obtain ⟨t, _, rfl⟩ := List.mem_map.mp other
      rfl
  | restacked _ _ _ slot up =>
    have kept := blank _ (List.mem_of_getElem? slot)
    exact up.blank blank kept

/-- An account that changes changes the sum by as much. -/
theorem sum_set {counts : List Nat} {i count : Nat} (slot : counts[i]? = some count) (other : Nat) :
    (counts.set i other).sum + count = counts.sum + other := by
  obtain ⟨inside, rfl⟩ := List.getElem?_eq_some_iff.mp slot
  have changed := (List.set_perm_cons_eraseIdx inside other).sum_eq
  have before := (List.getElem_cons_eraseIdx_perm inside).sum_eq
  simp only [List.sum_cons] at changed before
  omega

/-- The books of a run: the counter counts decisions, each account counts the turns since it was
begun, and the accounts with what was forgotten make up the counter. -/
structure Balanced (moves : List (Move κ)) (s : Scheduler κ) : Prop where
  total : s.total = 1 + moves.countP fun move => move.op.isDecision
  accounts : ∀ (i : Tid) (count : Nat), s.turns[i]? = some count →
    count = (if i = 0 then 1 else 0) +
      (moves.rtakeWhile fun move => !move.renews i).countP fun move => move.dispatches i
  sum : s.total = s.turns.sum + (moves.map Move.forgotten).sum

theorem Balanced.bounded (balanced : Balanced moves s) : ∀ count ∈ s.turns, count ≤ s.total := by
  intro count mem
  obtain ⟨i, slot⟩ := List.getElem?_of_mem mem
  have part := sum_set slot 0
  have whole := balanced.sum
  omega

theorem cleared_slot {counts : List Nat} {i count : Nat}
    (slot : (counts.take 1 ++ counts.tail.map fun _ => 0)[i + 1]? = some count) : count = 0 := by
  cases counts with
  | nil => simp at slot
  | cons first rest =>
    have member : count ∈ rest.map fun _ => 0 := List.mem_of_getElem? (by simpa using slot)
    obtain ⟨_, _, rfl⟩ := List.mem_map.mp member
    rfl

theorem Move.Booking.balanced (booking : move.Booking) (balanced : Balanced moves move.before) :
    Balanced (moves ++ [move]) move.after := by
  have total := balanced.total
  have sum := balanced.sum
  cases booking with
  | nothing turns total' op renews forgotten =>
    refine ⟨by simp [op, total', total], ?_, by simp [forgotten, turns, total', sum]⟩
    intro i count slot
    rw [turns] at slot
    rw [balanced.accounts i count slot, List.rtakeWhile_concat_pos _ _ _ (by simp [renews])]
    simp [Move.dispatches_eq_false op]
  | turn target count slot turns total' op dispatches renews forgotten =>
    refine ⟨by simp [op, total', total]; omega, ?_, ?_⟩
    · intro i count' slot'
      rw [turns] at slot'
      rw [List.rtakeWhile_concat_pos _ _ _ (by simp [renews])]
      by_cases picked : target = i
      · subst picked
        rw [List.getElem?_set_self (List.getElem?_eq_some_iff.mp slot).1] at slot'
        obtain rfl := Option.some.inj slot'
        have before := balanced.accounts target count slot
        simp [dispatches]
        omega
      · rw [List.getElem?_set_ne picked] at slot'
        have before := balanced.accounts i count' slot'
        simpa [dispatches, picked] using before
    · have changed := sum_set slot (count + 1)
      simp [forgotten, turns, total']
      omega
  | renewed tid count spawned slot turns total' op renews forgotten =>
    refine ⟨by simp [op, total', total], ?_, ?_⟩
    · intro i count' slot'
      rw [turns] at slot'
      by_cases same : tid = i
      · subst same
        rw [List.getElem?_set_self (List.getElem?_eq_some_iff.mp slot).1] at slot'
        rw [List.rtakeWhile_concat_neg _ _ _ (by simp [renews])]
        simpa [spawned] using (Option.some.inj slot').symm
      · rw [List.getElem?_set_ne same] at slot'
        rw [balanced.accounts i count' slot',
          List.rtakeWhile_concat_pos _ _ _ (by simp [renews, same])]
        simp [Move.dispatches_eq_false op]
    · have changed := sum_set slot 0
      simp [forgotten, turns, total']
      omega
  | cleared turns total' op renews forgotten =>
    refine ⟨by simp [op, total', total], ?_, ?_⟩
    · intro i count' slot'
      cases table : move.before.turns with
      | nil => simp [turns, table] at slot'
      | cons first rest =>
        rw [turns, table] at slot'
        cases i with
        | zero =>
          have before := balanced.accounts 0 count' (by simpa [table] using slot')
          rw [before, List.rtakeWhile_concat_pos _ _ _ (by simp [renews])]
          simp [Move.dispatches_eq_false op]
        | succ i =>
          rw [List.rtakeWhile_concat_neg _ _ _ (by simp [renews]), cleared_slot slot']
          simp
    · cases table : move.before.turns with
      | nil => simp [forgotten, turns, total', table, sum]
      | cons first rest =>
        simp [forgotten, turns, total', table, sum]
        omega

theorem Moves.balanced (run : Moves start moves s) (formed : start.Formed) (blank : start.Blank)
    (balanced : Balanced [] start) :
    s.Blank ∧ Balanced moves s ∧ ∀ move ∈ moves, move.Booking := by
  induction run with
  | none => exact ⟨blank, balanced, by simp⟩
  | more earlier valid ih =>
    obtain ⟨blank, balanced, booked⟩ := ih
    have here := earlier.formed formed
    have booking := valid.booking here blank balanced.bounded
    refine ⟨(valid.change here).blank blank, booking.balanced balanced, ?_⟩
    intro move mem
    rcases List.mem_append.mp mem with old | last
    · exact booked move old
    · exact List.mem_singleton.mp last ▸ booking

/-- The account of a thread that gets the processor grows by one, and never stops at the largest
word. -/
theorem Move.Booking.dispatched (booking : move.Booking) {i : Tid} (sent : move.dispatches i) :
    ∃ count, move.before.turns[i]? = some count ∧ move.after.turns[i]? = some (count + 1) := by
  cases booking with
  | nothing _ _ op | renewed _ _ _ _ _ _ op | cleared _ _ op =>
    simp [Move.dispatches_eq_false op] at sent
  | turn target count slot turns _ _ dispatches =>
    have same : target = i := by simpa [dispatches] using sent
    subst same
    refine ⟨count, slot, ?_⟩
    rw [turns, List.getElem?_set_self (List.getElem?_eq_some_iff.mp slot).1]

theorem Move.Booking.fresh (booking : move.Booking) {i : Tid} (renewed : move.renews i)
    {count : Nat} (slot : move.after.turns[i]? = some count) : count = 0 := by
  cases booking with
  | nothing _ _ _ renews => simp [renews] at renewed
  | turn _ _ _ _ _ _ _ renews => simp [renews] at renewed
  | renewed tid old spawned at_tid turns _ _ renews =>
    have same : tid = i := by simpa [renews] using renewed
    subst same
    rw [turns, List.getElem?_set_self (List.getElem?_eq_some_iff.mp at_tid).1] at slot
    exact (Option.some.inj slot).symm
  | cleared turns _ _ renews =>
    cases i with
    | zero => simp [renews] at renewed
    | succ i => exact cleared_slot (turns ▸ slot)

theorem new_balanced {capacity : Nat} (new : Scheduler.new capacity = .ok start) :
    start.Blank ∧ Balanced [] start := by
  unfold Scheduler.new at new
  split at new
  · simp at new
  · next main rest table =>
    obtain rfl := Except.ok.inj new
    have empty : ∀ t ∈ main :: rest, t.quanta = 0 := by
      intro t mem
      obtain ⟨i, _, rfl⟩ := List.mem_map.mp (table ▸ mem)
      rfl
    have first : main.markRunning.quanta = 1 := by
      simp [Thread.markRunning, empty main List.mem_cons_self, addSaturating, wordMax]
    have others : ∀ t ∈ rest, t.quanta = 0 := fun t mem => empty t (List.mem_cons_of_mem _ mem)
    refine ⟨?_, rfl, ?_, ?_⟩
    · intro t mem unused
      rcases List.mem_cons.mp mem with rfl | mem
      · simp [Thread.markRunning] at unused
      · exact others t mem
    · intro i count slot
      cases i with
      | zero => simpa [turns, first, eq_comm] using slot
      | succ i =>
        obtain ⟨t, at_i, rfl⟩ : ∃ t, rest[i]? = some t ∧ t.quanta = count := by
          simpa [turns] using slot
        simpa using others t (List.mem_of_getElem? at_i)
    · have zeros : rest.map Thread.quanta = List.replicate rest.length 0 :=
        List.map_eq_replicate_iff.mpr others
      simp [turns, first, zeros]

/-- In a disciplined run, too, no thread has had more turns than there were. -/
theorem Run.quanta_le {capacity : Nat} (one : 1 ≤ capacity) (fits : capacity < 2 ^ 60)
    {prime : Tid → Stack → Option κ} {first b : Bench κ} {steps : List (Step κ)}
    (new : Bench.new capacity = .ok first) (run : Run prime first steps b) {i : Tid}
    {t : Thread κ} (slot : b.scheduler.threads[i]? = some t) : t.quanta ≤ b.scheduler.total := by
  obtain ⟨start, created, created', settled, _⟩ := new_scheduler (κ := κ) one fits
  obtain rfl : first = ⟨start, none⟩ := Except.ok.inj (new.symm.trans created')
  obtain ⟨blank, initial⟩ := new_balanced created
  obtain ⟨moves, reached⟩ := run.careless .none
  obtain ⟨_, balanced, _⟩ := reached.balanced settled.coherent.formed blank initial
  exact balanced.bounded t.quanta (List.mem_of_getElem? (turns_slot slot))

/-- The counter is one more than the decisions made. Every account holds the turns that its thread
was given since the account was begun, at the start, by the spawn that gave out the number or by
the release of the slot; the main thread began with one turn. The accounts and what was forgotten
with released slots add up to the counter. So a turn more is always counted as one more, and a
number that is given out again begins at 0. -/
theorem turns_accounted_for (capacity : Nat) (one : 1 ≤ capacity) (fits : capacity < 2 ^ 60) :
    ∃ start : Scheduler κ, Scheduler.new capacity = .ok start ∧
      ∀ moves s, Moves start moves s →
        s.total = 1 + moves.countP (fun move => move.op.isDecision) ∧
        (∀ (i : Tid) (t : Thread κ), s.threads[i]? = some t →
          t.quanta = (if i = 0 then 1 else 0) +
            (moves.rtakeWhile fun move => !move.renews i).countP fun move => move.dispatches i) ∧
        s.total = (s.threads.map Thread.quanta).sum + (moves.map Move.forgotten).sum ∧
        (∀ move ∈ moves, ∀ i, move.dispatches i →
          ∃ t u, move.before.threads[i]? = some t ∧ move.after.threads[i]? = some u ∧
            u.quanta = t.quanta + 1) ∧
        ∀ move ∈ moves, ∀ i u, move.renews i → move.after.threads[i]? = some u → u.quanta = 0 := by
  obtain ⟨start, new, _, settled, _⟩ := new_scheduler (κ := κ) one fits
  obtain ⟨blank, initial⟩ := new_balanced new
  refine ⟨start, new, fun moves s run => ?_⟩
  obtain ⟨_, balanced, booked⟩ := run.balanced settled.coherent.formed blank initial
  refine ⟨balanced.total, fun i t slot => balanced.accounts i t.quanta (turns_slot slot),
    balanced.sum, ?_, ?_⟩
  · intro move mem i sent
    obtain ⟨count, before, after⟩ := (booked move mem).dispatched sent
    obtain ⟨t, at_t, rfl⟩ : ∃ t, move.before.threads[i]? = some t ∧ t.quanta = count := by
      simpa [turns] using before
    obtain ⟨u, at_u, grown⟩ : ∃ u, move.after.threads[i]? = some u ∧ u.quanta = t.quanta + 1 := by
      simpa [turns] using after
    exact ⟨t, u, at_t, at_u, grown⟩
  · intro move mem i u renewed slot
    exact (booked move mem).fresh renewed (turns_slot slot)

/-- Thread 1 has two turns and ends without a decision; its number is given out again and the new
thread has one turn. Of the six turns the table has then forgotten two. -/
theorem turns_accounted_for_reused :
    ∃ (start : Scheduler Unit) (moves : List (Move Unit)) (s : Scheduler Unit),
      1 ≤ 2 ∧ 2 < 2 ^ 60 ∧ Scheduler.new 2 = .ok start ∧ Moves start moves s ∧
        (moves.map Move.forgotten).sum = 2 ∧ s.total = 6 ∧ (s.threads.map Thread.quanta).sum = 4 ∧
        ∀ t, s.threads[1]? = some t → t.quanta = 1 := by
  obtain ⟨start, new, all⟩ := turns_accounted_for (κ := Unit) 2 (by decide) (by decide)
  obtain ⟨moves, b, played, decisions, forgotten, since⟩ :
    ∃ (moves : List (Move Unit)) (b : Bench Unit),
      playFresh (fun _ _ => none) 2
          [.spawn (some 7) 4096 (mapAt 65536), .schedule, .schedule, .schedule, .terminate 1,
            .schedule, .spawn (some 7) 4096 (mapAt 131072), .schedule] = .ok (moves, b) ∧
        moves.countP (fun move => move.op.isDecision) = 5 ∧
        (moves.map Move.forgotten).sum = 2 ∧
        (moves.rtakeWhile fun move => !move.renews 1).countP (fun move => move.dispatches 1) = 1 :=
    ⟨_, _, rfl, rfl, rfl, rfl⟩
  have run := playFresh_moves new _ played
  obtain ⟨total, accounts, sum, _⟩ := all moves b.scheduler run
  refine ⟨start, moves, b.scheduler, by decide, by decide, new, run, forgotten, by omega, by omega,
    fun t slot => ?_⟩
  simpa [since] using accounts 1 t slot

end RoundRobin.Scheduler
