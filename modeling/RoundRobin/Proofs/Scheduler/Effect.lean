import RoundRobin.Scheduler.Operation
import RoundRobin.Proofs.Stack
import RoundRobin.Proofs.Scheduler.Coherence

/-!
# What an operation can do

`Effect` lists, case by case, what the operations of a disciplined caller do to a coherent state in
which the current thread runs: a refusal changes nothing, a decision is described by `Decision`, and
everything else touches one slot and one place of the queue. `apply_cases` shows that this list is
complete, and that an operation comes to no other end than an answer, unless the counter or the
length of a mapping leaves the 64-bit words.
-/

namespace RoundRobin

def Thread.fresh {κ : Type} (tid : Tid) (program : Nat) (stack : Stack) (context : Option κ) :
    Thread κ :=
  ⟨tid, .ready, context, some stack, some program, 0, 0⟩

namespace Scheduler

variable {κ : Type}

/-- The operations that a disciplined caller chooses. The others belong to switching, teardown and
the adoption of stacks. -/
def Op.isOrdinary : Op → Bool
  | .spawn .. | .schedule | .block _ | .resume _ | .sleep _ | .terminate _ => true
  | _ => false

def Op.Oversized : Op → Prop
  | .spawn _ size _ => Stack.Oversized size
  | _ => False

inductive Effect (s : Scheduler κ) : Op → Answer → Scheduler κ → Prop where
  | refused {op : Op} (e : Error) (asked : op ≠ .schedule) : Effect s op (.refused e) s
  | admitted {entry : Option Nat} {size : Nat} {map : Nat → Except OsError Nat} {tid : Tid}
      {old : Thread κ} {s' : Scheduler κ} (program : Nat) (stack : Stack) (context : Option κ)
      (spawned : tid ≠ 0) (spare : s.threads[tid]? = some old) (unused : old.state = .unused)
      (up : s.Update tid
        { old with
          entry := some program
          context
          stack := some stack
          quanta := 0
          wakeAt := 0
          state := .ready } (s.ready.toList ++ [tid]) s') :
      Effect s (.spawn entry size map) (.spawned tid) s'
  | decided {switch : Switch} {s' : Scheduler κ} (dec : s.Decision switch s')
      (parked : s'.parked = s.parked) : Effect s .schedule (.switched switch) s'
  | blockedAgain {tid : Tid} {t : Thread κ} (slot : s.threads[tid]? = some t)
      (blocked : t.state = .blocked) : Effect s (.block tid) (.suspension .goOn) s
  | blockedAsleep {tid : Tid} {t : Thread κ} {s' : Scheduler κ}
      (slot : s.threads[tid]? = some t) (spawned : tid ≠ 0) (asleep : t.state.isSleeping)
      (up : s.Update tid { t with state := .sleepBlocked } s.ready.toList s') :
      Effect s (.block tid) (.suspension .goOn) s'
  | blockedReady {tid : Tid} {t : Thread κ} {s' : Scheduler κ}
      (slot : s.threads[tid]? = some t) (spawned : tid ≠ 0) (ready : t.state = .ready)
      (up : s.Update tid { t with state := .blocked } (s.ready.toList.erase tid) s') :
      Effect s (.block tid) (.suspension .goOn) s'
  | blockedRunning {t : Thread κ} {s' : Scheduler κ}
      (slot : s.threads[s.current]? = some t) (spawned : s.current ≠ 0)
      (running : t.state = .running)
      (up : s.Update s.current { t with state := .blocked } s.ready.toList s') :
      Effect s (.block s.current) (.suspension .reschedule) s'
  | resumedBlocked {tid : Tid} {t : Thread κ} {s' : Scheduler κ}
      (slot : s.threads[tid]? = some t) (blocked : t.state = .blocked)
      (up : s.Update tid { t with state := .ready } (s.ready.toList ++ [tid]) s') :
      Effect s (.resume tid) .done s'
  | resumedAsleep {tid : Tid} {t : Thread κ} {s' : Scheduler κ}
      (slot : s.threads[tid]? = some t) (asleep : t.state = .sleepBlocked)
      (up : s.Update tid { t with state := .sleeping } s.ready.toList s') :
      Effect s (.resume tid) .done s'
  | resumedIdle {tid : Tid} {t : Thread κ} (slot : s.threads[tid]? = some t)
      (free : t.state ≠ .blocked ∧ t.state ≠ .sleepBlocked) : Effect s (.resume tid) .done s
  | slept {quanta : Nat} {t : Thread κ} {s' : Scheduler κ}
      (slot : s.threads[s.current]? = some t) (spawned : s.current ≠ 0)
      (running : t.state = .running) (positive : quanta ≠ 0)
      (up : s.Update s.current (t.putToSleep (addSaturating s.total quanta)) s.ready.toList s') :
      Effect s (.sleep quanta) (.suspension .reschedule) s'
  | endedMain : Effect s (.terminate 0) (.ended .processEnd) { s with shutdown := true }
  | endedOther {tid : Tid} {t : Thread κ} {s' : Scheduler κ}
      (slot : s.threads[tid]? = some t) (spawned : tid ≠ 0) (used : t.state ≠ .unused)
      (other : tid ≠ s.current)
      (up : s.Update tid (Thread.unused tid) (s.ready.toList.erase tid) s') :
      Effect s (.terminate tid) (.ended (.removed t.stack)) s'
  | endedSelf {t : Thread κ} {s' : Scheduler κ}
      (slot : s.threads[s.current]? = some t) (spawned : s.current ≠ 0)
      (running : t.state = .running)
      (up : s.Update s.current (Thread.unused s.current) s.ready.toList s') :
      Effect s (.terminate s.current) (.ended .ownEnd) { s' with parked := t.stack }

/-- What an operation can do to a state that is only formed. Beside the effects above these are the
ones on a thread that is current without running or runs without being current, and the operations
of switching, teardown and adoption. -/
inductive Change (s : Scheduler κ) : Op → Answer → Scheduler κ → Prop where
  | regular {op : Op} {answer : Answer} {s' : Scheduler κ} (effect : s.Effect op answer s') :
      Change s op answer s'
  | blockedStray {tid : Tid} {t : Thread κ} {s' : Scheduler κ} (slot : s.threads[tid]? = some t)
      (spawned : tid ≠ 0) (running : t.state = .running) (other : tid ≠ s.current)
      (up : s.Update tid { t with state := .blocked } (s.ready.toList.erase tid) s') :
      Change s (.block tid) (.suspension .goOn) s'
  | blockedQueued {t : Thread κ} {s' : Scheduler κ} (slot : s.threads[s.current]? = some t)
      (spawned : s.current ≠ 0) (ready : t.state = .ready)
      (up : s.Update s.current { t with state := .blocked } s.ready.toList s') :
      Change s (.block s.current) (.suspension .reschedule) s'
  | sleptIdle {quanta : Nat} {t : Thread κ} {s' : Scheduler κ}
      (slot : s.threads[s.current]? = some t) (spawned : s.current ≠ 0)
      (idle : t.state ≠ .running)
      (up : s.Update s.current (t.putToSleep (addSaturating s.total quanta)) s.ready.toList s') :
      Change s (.sleep quanta) (.suspension .reschedule) s'
  | endedCurrent {t : Thread κ} {s' : Scheduler κ} (slot : s.threads[s.current]? = some t)
      (spawned : s.current ≠ 0) (used : t.state ≠ .unused)
      (up : s.Update s.current (Thread.unused s.current) (s.ready.toList.erase s.current) s') :
      Change s (.terminate s.current) (.ended .ownEnd) { s' with parked := t.stack }
  | handedOff {main : Thread κ} {s' : Scheduler κ} (slot : s.threads[0]? = some main)
      (up : s.Update 0 { main with state := .running } (s.ready.toList.erase 0) s') :
      Change s .handOff (.switched ⟨s.current, 0⟩) { s' with current := 0 }
  | tookParked : Change s .takeParked (.stack s.parked) { s with parked := none }
  | tornDown : Change s .releaseAll (.tornDown s.releaseAll.1) s.releaseAll.2
  | restacked {op : Op} {i : Tid} {t : Thread κ} {s' : Scheduler κ} (stack given : Option Stack)
      (asked : op = .detachRunning ∨ op = .adoptMain ∨ op = .releaseMain)
      (slot : s.threads[i]? = some t) (up : s.Update i { t with stack } s.ready.toList s') :
      Change s op (.stack given) s'
  | adoptedNothing : Change s .adoptMain (.stack none) s

variable {s s' : Scheduler κ} {b : Bench κ} {prime : Tid → Stack → Option κ}

theorem thread_cases (s : Scheduler κ) (tid : Tid) :
    (∃ t, s.threads[tid]? = some t ∧ (tid = 0 ∨ t.state ≠ .unused) ∧ s.thread tid = .ok t) ∨
      s.thread tid = .error (.invalidTid tid) := by
  cases slot : s.threads[tid]? with
  | none => exact .inr (by simp [thread, slot])
  | some t =>
    by_cases live : tid = 0 ∨ t.state ≠ .unused
    · refine .inl ⟨t, rfl, live, ?_⟩
      simp [thread, slot, Thread.isUnused, live]
    · exact .inr (by simp [thread, slot, Thread.isUnused, live])

/-- What becomes of `s` when only the state of slot `tid` changes. -/
theorem setState_update {queue : List Tid} {tid : Tid} {t : Thread κ} {ready : ReadyQueue}
    (slot : s.threads[tid]? = some t) (state : ThreadState)
    (ring : ready.Holds s.threads.length queue) :
    s.Update tid { t with state } queue { s.setState tid state with ready } where
  inside := (List.getElem?_eq_some_iff.mp slot).1
  threads := by
    obtain ⟨inside, rfl⟩ := List.getElem?_eq_some_iff.mp slot
    exact List.modify_eq_set_get _ inside
  ring := ring
  current := rfl
  total := rfl
  parked := rfl
  shutdown := rfl

def Crowded (s : Scheduler κ) : Prop :=
  s.ready.toList.length = s.threads.length ∧
    ∃ (i : Tid) (t : Thread κ), s.threads[i]? = some t ∧ t.state ≠ .ready

theorem Coherent.not_crowded (coh : s.Coherent) : ¬ s.Crowded := by
  rintro ⟨full, i, t, slot, resting⟩
  have absent : i ∉ s.ready.toList := fun queued => resting ((coh.slots i t slot).queued.mpr queued)
  have room := coh.room (List.getElem?_eq_some_iff.mp slot).1 absent
  omega

/-- The operation is answered, and the answer and the state after it are in the list. An ordinary
operation leaves the held stack alone. -/
def Changes (b : Bench κ) (prime : Tid → Stack → Option κ) (op : Op) : Prop :=
  ∃ answer s' held, b.apply prime op = .ok (answer, ⟨s', held⟩) ∧
    (op.isOrdinary → held = b.held) ∧ b.scheduler.Change op answer s'

theorem Changes.regular {op : Op} {answer : Answer}
    (applied : b.apply prime op = .ok (answer, { b with scheduler := s' }))
    (effect : b.scheduler.Effect op answer s') : Changes b prime op :=
  ⟨answer, s', b.held, applied, fun _ => rfl, .regular effect⟩

/-- A ready thread that is not current is blocked and gives up its first place in the queue. -/
theorem block_ready (formed : b.scheduler.Formed) {tid : Tid} {t : Thread κ}
    (slot : b.scheduler.threads[tid]? = some t) (spawned : tid ≠ 0)
    (other : tid ≠ b.scheduler.current) (ready : t.state = .ready) :
    ∃ s', b.apply prime (.block tid) = .ok (.suspension .goOn, { b with scheduler := s' }) ∧
      b.scheduler.Update tid { t with state := .blocked } (b.scheduler.ready.toList.erase tid)
        s' := by
  obtain ⟨queue, removed, ring⟩ := formed.ring.remove_eq tid
  refine ⟨_, ?_, setState_update slot .blocked ring⟩
  have state : b.scheduler.stateOf tid = .ok .ready := by
    simp [stateOf, thread, slot, Thread.isUnused, ready, Except.map]
  simp [Bench.apply, block, spawned, state, other, removed, Bench.conclude]

theorem block_changes (formed : b.scheduler.Formed) (tid : Tid) :
    Changes b prime (.block tid) := by
  by_cases main : tid = 0
  · refine .regular ?_ (.refused (.invalidTid tid) (by simp))
    simp [Bench.apply, block, main, Bench.conclude]
  rcases b.scheduler.thread_cases tid with ⟨t, slot, live, found⟩ | invalid
  · have used : t.state ≠ .unused := live.resolve_left main
    have state : b.scheduler.stateOf tid = .ok t.state := by simp [stateOf, found, Except.map]
    cases h : t.state with
    | unused => exact absurd h used
    | blocked =>
      refine .regular ?_ (.blockedAgain slot h)
      simp [Bench.apply, block, main, state, h, Bench.conclude]
    | sleeping | sleepBlocked =>
      refine .regular ?_ (.blockedAsleep slot main (by simp [h])
        (setState_update slot .sleepBlocked formed.ring))
      simp [Bench.apply, block, main, state, h, Bench.conclude, setState]
    | running =>
      by_cases own : tid = b.scheduler.current
      · subst own
        refine .regular ?_
          (.blockedRunning slot main h (setState_update slot .blocked formed.ring))
        simp [Bench.apply, block, main, state, h, Bench.conclude, setState]
      · obtain ⟨ready, removed, ring⟩ := formed.ring.remove_eq tid
        refine ⟨_, _, _, ?_, fun _ => rfl,
          .blockedStray slot main h own (setState_update slot .blocked ring)⟩
        simp [Bench.apply, block, main, state, h, own, removed, Bench.conclude]
    | ready =>
      by_cases own : tid = b.scheduler.current
      · subst own
        refine ⟨_, _, _, ?_, fun _ => rfl,
          .blockedQueued slot main h (setState_update slot .blocked formed.ring)⟩
        simp [Bench.apply, block, main, state, h, Bench.conclude, setState]
      · obtain ⟨s', applied, up⟩ := block_ready formed slot main own h
        exact .regular applied (.blockedReady slot main h up)
  · refine .regular ?_ (.refused (.invalidTid tid) (by simp))
    simp [Bench.apply, block, main, stateOf, invalid, Except.map, Bench.conclude]

theorem resume_cases (formed : b.scheduler.Formed) (tid : Tid) :
    Changes b prime (.resume tid) ∨
      (b.apply prime (.resume tid) = .error (.abort .queueOverflow) ∧ b.scheduler.Crowded) := by
  rcases b.scheduler.thread_cases tid with ⟨t, slot, live, found⟩ | invalid
  · have state : b.scheduler.stateOf tid = .ok t.state := by simp [stateOf, found, Except.map]
    by_cases blocked : t.state = .blocked
    · by_cases full : b.scheduler.ready.toList.length = b.scheduler.threads.length
      · refine .inr ⟨?_, full, tid, t, slot, by simp [blocked]⟩
        simp [Bench.apply, resume, state, blocked, enqueue_full formed.ring full]
      · have fits := formed.ring.fits
        obtain ⟨ready, pushed, ring⟩ := enqueue_eq formed.ring (by omega) tid
        refine .inl (.regular ?_
          (.resumedBlocked slot blocked (setState_update slot .ready ring)))
        simp [Bench.apply, resume, state, blocked, pushed, Bench.conclude]
    · by_cases asleep : t.state = .sleepBlocked
      · refine .inl (.regular ?_
          (.resumedAsleep slot asleep (setState_update slot .sleeping formed.ring)))
        simp [Bench.apply, resume, state, asleep, Bench.conclude, setState]
      · refine .inl (.regular ?_ (.resumedIdle slot ⟨blocked, asleep⟩))
        cases h : t.state <;> simp_all [Bench.apply, resume, Bench.conclude]
  · refine .inl (.regular ?_ (.refused (.invalidTid tid) (by simp)))
    simp [Bench.apply, resume, stateOf, invalid, Except.map, Bench.conclude]

/-- A spawned thread that asks for a sleep of at least one decision gets it. -/
theorem sleep_accepted (formed : b.scheduler.Formed) (spawned : b.scheduler.current ≠ 0)
    {quanta : Nat} (positive : quanta ≠ 0) :
    ∃ s', b.apply prime (.sleep quanta) =
        .ok (.suspension .reschedule, { b with scheduler := s' }) ∧
      b.scheduler.Change (.sleep quanta) (.suspension .reschedule) s' := by
  obtain ⟨t, slot⟩ := Coherent.slot_of_lt formed.current_lt
  let asleep := t.putToSleep (addSaturating b.scheduler.total quanta)
  let s' := { b.scheduler with threads := b.scheduler.threads.set b.scheduler.current asleep }
  have up : b.scheduler.Update b.scheduler.current asleep b.scheduler.ready.toList s' :=
    ⟨formed.current_lt, rfl, formed.ring, rfl, rfl, rfl, rfl⟩
  refine ⟨s', ?_, ?_⟩
  · simp [Bench.apply, sleep, spawned, positive, Checked.get_eq_ok slot,
      Checked.set_eq_ok formed.current_lt, Bench.conclude, s', asleep]
  · by_cases running : t.state = .running
    · exact .regular (.slept slot spawned running positive up)
    · exact .sleptIdle slot spawned running up

theorem sleep_changes (formed : b.scheduler.Formed) (quanta : Nat) :
    Changes b prime (.sleep quanta) := by
  by_cases invalid : b.scheduler.current = 0 ∨ quanta = 0
  · refine .regular ?_ (.refused .invalidSleep (by simp))
    simp [Bench.apply, sleep, invalid, Bench.conclude]
  · obtain ⟨spawned, positive⟩ := not_or.mp invalid
    obtain ⟨s', accepted, change⟩ := sleep_accepted formed spawned positive
    exact ⟨_, s', _, accepted, fun _ => rfl, change⟩

theorem terminate_changes (formed : b.scheduler.Formed) (tid : Tid) :
    Changes b prime (.terminate tid) := by
  by_cases main : tid = 0
  · subst main
    exact .regular (by simp [Bench.apply, terminate, Bench.conclude]) .endedMain
  rcases b.scheduler.thread_cases tid with ⟨t, slot, live, found⟩ | invalid
  · have used : t.state ≠ .unused := live.resolve_left main
    have inside := (List.getElem?_eq_some_iff.mp slot).1
    obtain ⟨ready, removed, ring⟩ := formed.ring.remove_eq tid
    have up : b.scheduler.Update tid (Thread.unused tid) (b.scheduler.ready.toList.erase tid)
        { b.scheduler with
          threads := b.scheduler.threads.set tid (Thread.unused t.tid)
          ready } :=
      ⟨inside, by rw [formed.numbered tid t slot], ring, rfl, rfl, rfl, rfl⟩
    by_cases own : tid = b.scheduler.current
    · subst own
      refine ⟨_, _, _, ?_, fun _ => rfl, .endedCurrent slot main used up⟩
      simp [Bench.apply, terminate, main, found, Thread.release, Checked.set_eq_ok inside, removed,
        Bench.conclude]
    · refine .regular ?_ (.endedOther slot main used own up)
      simp [Bench.apply, terminate, main, found, Thread.release, Checked.set_eq_ok inside, removed,
        own, Bench.conclude]
  · refine .regular ?_ (.refused (.invalidTid tid) (by simp))
    simp [Bench.apply, terminate, main, invalid, Bench.conclude]

/-- A spawned thread that ends itself is not refused. -/
theorem terminate_own (formed : b.scheduler.Formed)
    (runs : b.scheduler.state? b.scheduler.current = some .running)
    (spawned : b.scheduler.current ≠ 0) :
    ∃ s', b.apply prime (.terminate b.scheduler.current) =
      .ok (.ended .ownEnd, { b with scheduler := s' }) := by
  obtain ⟨t, slot, running⟩ := state?_eq_some.mp runs
  obtain ⟨ready, removed, _⟩ := formed.ring.remove_eq b.scheduler.current
  have found : b.scheduler.thread b.scheduler.current = .ok t := by
    simp [thread, slot, Thread.isUnused, running]
  refine ⟨{ b.scheduler with
    threads := b.scheduler.threads.set b.scheduler.current t.release.2
    ready
    parked := t.stack }, ?_⟩
  simp [Bench.apply, terminate, spawned, found, Thread.release, Checked.set_eq_ok formed.current_lt,
    removed, Bench.conclude]

theorem Formed.freeSlot?_eq_some {t : Thread κ} (formed : s.Formed)
    (free : s.freeSlot? = some t) :
    t.tid ≠ 0 ∧ s.threads[t.tid]? = some t ∧ t.state = .unused := by
  have unused : t.state = .unused := by
    simpa [Thread.isUnused] using List.find?_some free
  obtain ⟨i, at_i⟩ := List.getElem?_of_mem (List.mem_of_find?_eq_some free)
  rw [List.getElem?_tail] at at_i
  have numbered : t.tid = i + 1 := formed.numbered (i + 1) t at_i
  exact ⟨by simp [numbered], by rwa [numbered], unused⟩

theorem Formed.freeSlot?_least {t : Thread κ} (formed : s.Formed) (free : s.freeSlot? = some t)
    {j : Tid} (spawned : 1 ≤ j) (lower : j < t.tid) : s.state? j ≠ some .unused := by
  intro blank
  obtain ⟨u, slot, unused⟩ := state?_eq_some.mp blank
  obtain ⟨_, i, inside, here, earlier⟩ := List.find?_eq_some_iff_getElem.mp free
  have at_i : s.threads[i + 1]? = some t := by
    rw [← List.getElem?_tail, List.getElem?_eq_getElem inside, here]
  have numbered : t.tid = i + 1 := formed.numbered (i + 1) t at_i
  have before : j - 1 < i := Nat.sub_lt_right_of_lt_add spawned (numbered ▸ lower)
  have at_j : s.threads.tail[j - 1]? = some u := by
    rwa [List.getElem?_tail, Nat.sub_add_cancel spawned]
  obtain ⟨_, same⟩ := List.getElem?_eq_some_iff.mp at_j
  have used := earlier (j - 1) before
  rw [same] at used
  simp [Thread.isUnused, unused] at used

/-- The way of a spawn that succeeds. -/
theorem spawnWith_inv {entry : Option Nat} {size : Nat} {map : Nat → Except OsError Nat}
    {prime : Tid → Stack → Except Halt (Option κ)} {tid : Tid}
    (spawned : s.spawnWith entry size map prime = .ok (.ok tid, s')) :
    ∃ program stack old context slot threads ready, entry = some program ∧
      s.freeSlot? = some old ∧ old.tid = tid ∧ Stack.request map size = .ok (.ok stack) ∧
      prime tid stack = .ok context ∧ Checked.get s.threads tid = .ok slot ∧
      Checked.set s.threads tid
          { slot with
            entry := some program, context, stack := some stack, quanta := 0, wakeAt := 0
            state := .ready } =
        .ok threads ∧
      enqueue s.ready tid = .ok ready ∧ s' = { s with threads, ready } := by
  unfold spawnWith at spawned
  split at spawned
  · simp at spawned
  · next program =>
    split at spawned
    · simp at spawned
    · next old found =>
      simp only [bind_eq_ok] at spawned
      obtain ⟨requested, asked, spawned⟩ := spawned
      cases requested with
      | error reason => simp at spawned
      | ok stack =>
        simp only [bind_eq_ok, pure_eq_ok, Except.ok.injEq, Prod.mk.injEq] at spawned
        obtain ⟨context, primed, slot, got, threads, put, ready, pushed, rfl, rfl⟩ := spawned
        exact ⟨program, stack, old, context, slot, threads, ready, rfl, found, rfl, asked, primed,
          got, put, pushed, rfl⟩

/-- What a spawn that succeeds has found and made. -/
theorem Formed.spawn_inv {entry : Option Nat} {size : Nat} {map : Nat → Except OsError Nat}
    {tid : Tid} (formed : s.Formed)
    (spawned : s.spawn entry size map prime = .ok (.ok tid, s')) :
    ∃ program stack old ready, entry = some program ∧ Stack.request map size = .ok (.ok stack) ∧
      s.freeSlot? = some old ∧ old.tid = tid ∧ enqueue s.ready tid = .ok ready ∧
      s' =
        { s with
          threads := s.threads.set tid (.fresh tid program stack (prime tid stack))
          ready } := by
  obtain ⟨program, stack, old, context, t, threads, ready, given, found, rfl, asked, primed, got,
    put, pushed, rfl⟩ := spawnWith_inv spawned
  have slot := (formed.freeSlot?_eq_some found).2.1
  have inside := (List.getElem?_eq_some_iff.mp slot).1
  rw [Checked.get_eq_ok slot, Except.ok.injEq] at got
  rw [Checked.set_eq_ok inside, Except.ok.injEq] at put
  subst got put
  obtain rfl := Except.ok.inj primed
  exact ⟨program, stack, old, ready, given, asked, found, rfl, pushed, rfl⟩

/-- A spawn is answered, or the length of its mapping is no word, or there is no room. -/
theorem spawn_cases (formed : b.scheduler.Formed) (entry : Option Nat) (size : Nat)
    (map : Nat → Except OsError Nat) :
    Changes b prime (.spawn entry size map) ∨
      (∃ f, b.apply prime (.spawn entry size map) = .error (.fault f) ∧ Stack.Oversized size) ∨
      (b.apply prime (.spawn entry size map) = .error (.abort .queueOverflow) ∧
        b.scheduler.Crowded) := by
  cases entry with
  | none =>
    refine .inl (.regular ?_ (.refused .noEntryPoint (by simp)))
    simp [Bench.apply, spawn, spawnWith, Bench.conclude]
  | some program =>
    cases free : b.scheduler.freeSlot? with
    | none =>
      refine .inl (.regular ?_ (.refused .tableFull (by simp)))
      simp [Bench.apply, spawn, spawnWith, free, Bench.conclude]
    | some old =>
      obtain ⟨spawned, slot, unused⟩ := formed.freeSlot?_eq_some free
      rcases Stack.request_cases map size with ⟨answer, requested⟩ | ⟨f, fault, large⟩
      · cases answer with
        | error reason =>
          refine .inl (.regular ?_ (.refused (.stackAllocation reason) (by simp)))
          simp [Bench.apply, spawn, spawnWith, free, requested, Bench.conclude]
        | ok stack =>
          have inside := (List.getElem?_eq_some_iff.mp slot).1
          by_cases full : b.scheduler.ready.toList.length = b.scheduler.threads.length
          · refine .inr (.inr ⟨?_, full, old.tid, old, slot, by simp [unused]⟩)
            simp [Bench.apply, spawn, spawnWith, free, requested, Checked.get_eq_ok slot,
              Checked.set_eq_ok inside, enqueue_full formed.ring full]
          · have fits := formed.ring.fits
            obtain ⟨ready, pushed, ring⟩ := enqueue_eq formed.ring (by omega) old.tid
            have effect : b.scheduler.Effect (.spawn (some program) size map) _
                { b.scheduler with threads := _, ready } :=
              .admitted program stack (prime old.tid stack) spawned slot unused
                ⟨inside, rfl, ring, rfl, rfl, rfl, rfl⟩
            refine .inl (.regular ?_ effect)
            simp [Bench.apply, spawn, spawnWith, free, requested, Checked.get_eq_ok slot,
              Checked.set_eq_ok inside, pushed, Bench.conclude]
      · refine .inr (.inl ⟨f, ?_, large⟩)
        simp [Bench.apply, spawn, spawnWith, free, fault]

/-- A slot whose stack is replaced. -/
theorem restack_update (formed : s.Formed) {i : Tid} {t : Thread κ}
    (slot : s.threads[i]? = some t) (stack : Option Stack) :
    s.Update i { t with stack } s.ready.toList
      { s with threads := s.threads.set i { t with stack } } :=
  ⟨(List.getElem?_eq_some_iff.mp slot).1, rfl, formed.ring, rfl, rfl, rfl, rfl⟩

theorem takeStack_eq {i : Tid} {t : Thread κ} (slot : s.threads[i]? = some t) :
    s.takeStack i =
      .ok (t.stack, { s with threads := s.threads.set i { t with stack := none } }) := by
  simp [takeStack, Checked.get_eq_ok slot,
    Checked.set_eq_ok (List.getElem?_eq_some_iff.mp slot).1]

theorem adoptMain_eq {main : Thread κ} (slot : s.threads[0]? = some main) (stack : Stack) :
    s.adoptMain stack =
      .ok { s with threads := s.threads.set 0 { main with stack := some stack } } := by
  simp [adoptMain, Checked.get_eq_ok slot, Checked.set_eq_ok (List.getElem?_eq_some_iff.mp slot).1]

theorem handOff_eq (formed : s.Formed) {main : Thread κ} (slot : s.threads[0]? = some main) :
    ∃ ready, ready.Holds s.threads.length (s.ready.toList.erase 0) ∧
      s.handOff = .ok (⟨s.current, 0⟩,
        { s with
          threads := s.threads.set 0 { main with state := .running }
          ready
          current := 0 }) := by
  obtain ⟨ready, removed, ring⟩ := formed.ring.remove_eq 0
  refine ⟨ready, ring, ?_⟩
  simp [handOff, removed, Checked.get_eq_ok slot,
    Checked.set_eq_ok (List.getElem?_eq_some_iff.mp slot).1]

/-- The operations of switching, teardown and adoption always have an answer. -/
theorem service_changes (formed : b.scheduler.Formed) {op : Op} (service : ¬ op.isOrdinary) :
    Changes b prime op := by
  obtain ⟨main, at_main⟩ := Coherent.slot_of_lt (Nat.zero_lt_of_lt formed.current_lt)
  obtain ⟨t, at_current⟩ := Coherent.slot_of_lt formed.current_lt
  have held : ∀ {held : Option Stack}, op.isOrdinary → held = b.held :=
    fun ordinary => absurd ordinary service
  cases op with
  | spawn | schedule | block | resume | sleep | terminate =>
    exact absurd rfl service
  | handOff =>
    obtain ⟨ready, ring, handed⟩ := handOff_eq formed at_main
    have up : b.scheduler.Update 0 { main with state := .running }
        (b.scheduler.ready.toList.erase 0)
        { b.scheduler with
          threads := b.scheduler.threads.set 0 { main with state := .running }
          ready } :=
      ⟨(List.getElem?_eq_some_iff.mp at_main).1, rfl, ring, rfl, rfl, rfl, rfl⟩
    refine ⟨_, _, b.held, ?_, held, .handedOff at_main up⟩
    simp [Bench.apply, handed]
  | takeParked => exact ⟨_, _, _, rfl, held, .tookParked⟩
  | releaseAll => exact ⟨_, _, _, rfl, held, .tornDown⟩
  | detachRunning =>
    refine ⟨_, _, t.stack.or b.held, ?_, held,
      .restacked none t.stack (.inl rfl) at_current (restack_update formed at_current none)⟩
    simp [Bench.apply, detachRunning, takeStack_eq at_current]
  | releaseMain =>
    refine ⟨_, _, b.held, ?_, held, .restacked none main.stack (.inr (.inr rfl)) at_main
      (restack_update formed at_main none)⟩
    simp [Bench.apply, releaseMain, takeStack_eq at_main]
  | adoptMain =>
    cases given : b.held with
    | none =>
      have applied : b.apply prime .adoptMain = .ok (.stack none, b) := by
        simp [Bench.apply, given]
      exact ⟨_, _, _, applied, held, .adoptedNothing⟩
    | some stack =>
      refine ⟨_, _, none, ?_, held, .restacked (some stack) (some stack) (.inr (.inl rfl)) at_main
        (restack_update formed at_main (some stack))⟩
      simp [Bench.apply, given, adoptMain_eq at_main]

/-- Whatever is asked of a formed state is answered in one of the listed ways, or a number has left
the words, or the library gives up: the queue has no room, or a decision finds nobody in line. -/
theorem Formed.apply_cases (formed : b.scheduler.Formed) (op : Op) :
    Changes b prime op ∨
      (∃ f, b.apply prime op = .error (.fault f) ∧
        ((op = .schedule ∧ wordMax ≤ b.scheduler.total) ∨ op.Oversized)) ∨
      (b.apply prime op = .error (.abort .queueOverflow) ∧
        (b.scheduler.Crowded ∨ b.scheduler.threads.length < b.scheduler.line.length)) ∨
      (op = .schedule ∧ b.apply prime op = .error (.abort .emptyQueue) ∧
        b.scheduler.line = []) := by
  cases op with
  | spawn entry size map =>
    rcases spawn_cases formed entry size map with changes | ⟨f, fault, large⟩ | ⟨full, crowded⟩
    · exact .inl changes
    · exact .inr (.inl ⟨f, fault, .inr large⟩)
    · exact .inr (.inr (.inl ⟨full, .inl crowded⟩))
  | schedule =>
    rcases formed.schedule_cases with
      ⟨switch, s', decided, dec, parked⟩ | ⟨crowded, full⟩ | ⟨last, fault⟩ | ⟨nobody, empty⟩
    · exact .inl (.regular (by simp [Bench.apply, decided]) (.decided dec parked))
    · exact .inr (.inr (.inl ⟨by simp [Bench.apply, full], .inr crowded⟩))
    · exact .inr (.inl ⟨.addOverflow, by simp [Bench.apply, fault], .inl ⟨rfl, last⟩⟩)
    · exact .inr (.inr (.inr ⟨rfl, by simp [Bench.apply, empty], nobody⟩))
  | block tid => exact .inl (block_changes formed tid)
  | resume tid =>
    rcases resume_cases formed tid with changes | ⟨full, crowded⟩
    · exact .inl changes
    · exact .inr (.inr (.inl ⟨full, .inl crowded⟩))
  | sleep quanta => exact .inl (sleep_changes formed quanta)
  | terminate tid => exact .inl (terminate_changes formed tid)
  | handOff | takeParked | releaseAll | detachRunning | adoptMain | releaseMain =>
    exact .inl (service_changes formed (by simp [Op.isOrdinary]))

/-- In a coherent state whose current thread runs, the stray cases do not arise. -/
theorem Change.effect {op : Op} {answer : Answer} (change : s.Change op answer s')
    (coh : s.Coherent) (runs : s.state? s.current = some .running) (ordinary : op.isOrdinary) :
    s.Effect op answer s' := by
  obtain ⟨u, at_current, running⟩ := state?_eq_some.mp runs
  have current : ∀ {t : Thread κ}, s.threads[s.current]? = some t → t.state = .running := by
    intro t slot
    exact Option.some.inj (at_current.symm.trans slot) ▸ running
  cases change with
  | regular effect => exact effect
  | blockedStray slot spawned running other up =>
    exact absurd ((coh.slots _ _ slot).running running) other
  | blockedQueued slot spawned ready up => simp [current slot] at ready
  | sleptIdle slot spawned idle up => exact absurd (current slot) idle
  | endedCurrent slot spawned used up =>
    have absent : s.current ∉ s.ready.toList :=
      fun queued => by simpa [current slot] using (coh.slots _ _ slot).queued.mpr queued
    rw [List.erase_of_not_mem absent] at up
    exact .endedSelf slot spawned (current slot) up
  | handedOff | tookParked | tornDown | adoptedNothing => simp [Op.isOrdinary] at ordinary
  | restacked stack given asked slot up =>
    rcases asked with rfl | rfl | rfl <;> simp [Op.isOrdinary] at ordinary

/-- The operation is answered, and in a way that a disciplined caller can see. -/
def Answers (b : Bench κ) (prime : Tid → Stack → Option κ) (op : Op) : Prop :=
  ∃ answer s', b.apply prime op = .ok (answer, { b with scheduler := s' }) ∧
    b.scheduler.Effect op answer s'

/-- An ordinary operation is answered in one of the listed ways, or a number has left the words:
the counter in a decision, the length of a mapping in a spawn. -/
theorem apply_cases (coh : b.scheduler.Coherent)
    (runs : b.scheduler.state? b.scheduler.current = some .running) {op : Op}
    (ordinary : op.isOrdinary) :
    Answers b prime op ∨
      ∃ f, b.apply prime op = .error (.fault f) ∧
        ((op = .schedule ∧ wordMax ≤ b.scheduler.total) ∨ op.Oversized) := by
  have cases : Changes b prime op ∨ _ := coh.formed.apply_cases op
  rcases cases with ⟨answer, s', held, applied, kept, change⟩ | fault | ⟨_, crowded | crowded⟩ |
    ⟨_, _, nobody⟩
  · refine .inl ⟨answer, s', ?_, change.effect coh runs ordinary⟩
    rw [applied, kept ordinary]
  · exact .inr fault
  · exact absurd crowded coh.not_crowded
  · exact absurd coh.line_length_le (Nat.not_le_of_lt crowded)
  · exact absurd coh.main_mem_line (by simp [nobody])

namespace Update

variable {i : Tid} {t : Thread κ}

/-- A thread that was not queued and now is, at the back. -/
theorem coherent_push (up : s.Update i t (s.ready.toList ++ [i]) s') (coh : s.Coherent)
    (absent : i ∉ s.ready.toList)
    (slot : t.Consistent (s.ready.toList ++ [i]) s.current i) : s'.Coherent := by
  refine up.coherent coh ?_ ?_ slot
  · rw [List.nodup_append]
    refine ⟨coh.nodup, by simp, ?_⟩
    rintro j hj _ here rfl
    exact absent (List.mem_singleton.mp here ▸ hj)
  · intro j ne
    simp [ne]

/-- A thread that is no longer queued, if it was. -/
theorem coherent_erase (up : s.Update i t (s.ready.toList.erase i) s') (coh : s.Coherent)
    (slot : t.Consistent (s.ready.toList.erase i) s.current i) : s'.Coherent :=
  up.coherent coh (coh.nodup.erase i) (fun _ ne => List.mem_erase_of_ne ne) slot

/-- A thread that changes off the queue. -/
theorem coherent_keep (up : s.Update i t s.ready.toList s') (coh : s.Coherent)
    (slot : t.Consistent s.ready.toList s.current i) : s'.Coherent :=
  up.coherent coh coh.nodup (fun _ _ => Iff.rfl) slot

end Update

/-- A blank slot is consistent where its number is neither queued nor the main thread's. -/
theorem unused_consistent {queue : List Tid} {current tid : Tid} (spawned : tid ≠ 0)
    (absent : tid ∉ queue) :
    (Thread.unused tid : Thread κ).Consistent queue current tid where
  numbered := rfl
  running := by simp [Thread.unused]
  queued := by simp [Thread.unused, absent]
  deadline := by simp [Thread.unused]
  blank := fun _ => ⟨rfl, rfl⟩
  stack := fun _ => by simp [Thread.unused]
  entry := fun _ => by simp [Thread.unused]
  main := fun main => absurd main spawned

theorem addSaturating_ne_zero {a b : Nat} (positive : b ≠ 0) : addSaturating a b ≠ 0 := by
  unfold addSaturating wordMax
  omega

namespace Effect

variable {op : Op} {answer : Answer}

theorem coherent (effect : s.Effect op answer s') (coh : s.Coherent) : s'.Coherent := by
  have absent : ∀ {i : Tid} {t : Thread κ}, s.threads[i]? = some t → t.state ≠ .ready →
      i ∉ s.ready.toList :=
    fun slot other queued => other ((coh.slots _ _ slot).queued.mpr queued)
  have gone : ∀ i : Tid, i ∉ s.ready.toList.erase i :=
    fun i queued => (coh.nodup.mem_erase_iff.mp queued).1 rfl
  cases effect with
  | refused e asked => exact coh
  | admitted program stack context spawned spare unused up =>
    refine up.coherent_push coh (absent spare (by simp [unused])) ?_
    exact
      { numbered := (coh.slots _ _ spare).numbered
        running := by simp
        queued := by simp
        deadline := by simp
        blank := by simp
        stack := by simp
        entry := by simp
        main := fun _ => .inr rfl }
  | decided dec parked => exact dec.coherent coh
  | blockedAgain slot blocked => exact coh
  | blockedAsleep slot spawned asleep up =>
    have old := coh.slots _ _ slot
    have sleeper := (ThreadState.isSleeping_iff _).mp asleep
    have out := absent slot (by rcases sleeper with h | h <;> simp [h])
    exact up.coherent_keep coh (old.move (by rcases sleeper with h | h <;> simp [h]) (by simp)
      (by simp) (by simp [out]) (by simpa [asleep] using old.deadline)
      (fun main => absurd main spawned))
  | blockedReady slot spawned ready up =>
    have old := coh.slots _ _ slot
    exact up.coherent_erase coh (old.move (by simp [ready]) (by simp) (by simp)
      (by simp [gone]) (by simpa [ready] using old.deadline) (fun main => absurd main spawned))
  | blockedRunning slot spawned running up =>
    have old := coh.slots _ _ slot
    have out := absent slot (by simp [running])
    exact up.coherent_keep coh (old.move (by simp [running]) (by simp) (by simp) (by simp [out])
      (by simpa [running] using old.deadline) (fun main => absurd main spawned))
  | resumedBlocked slot blocked up =>
    have old := coh.slots _ _ slot
    exact up.coherent_push coh (absent slot (by simp [blocked]))
      (old.move (by simp [blocked]) (by simp) (by simp) (by simp)
        (by simpa [blocked] using old.deadline) (fun _ => .inr rfl))
  | resumedAsleep slot asleep up =>
    have old := coh.slots _ _ slot
    have out := absent slot (by simp [asleep])
    exact up.coherent_keep coh (old.move (by simp [asleep]) (by simp) (by simp) (by simp [out])
      (by simpa [asleep] using old.deadline) (fun main => by simpa [asleep] using old.main main))
  | resumedIdle slot free => exact coh
  | slept slot spawned running positive up =>
    have old := coh.slots _ _ slot
    have out := absent slot (by simp [running])
    have later : addSaturating s.total _ ≠ 0 := addSaturating_ne_zero positive
    exact up.coherent_keep coh (old.move (by simp [running]) (by simp) (by simp) (by simp [out])
      (by simp [later]) (fun main => absurd main spawned))
  | endedMain => exact ⟨coh.current_lt, coh.ring, coh.queued_lt, coh.nodup, coh.slots⟩
  | endedOther slot spawned used other up =>
    exact up.coherent_erase coh (unused_consistent spawned (gone _))
  | endedSelf slot spawned running up =>
    have next := up.coherent_keep coh
      (unused_consistent spawned (absent slot (by simp [running])))
    exact ⟨next.current_lt, next.ring, next.queued_lt, next.nodup, next.slots⟩

theorem length_eq (effect : s.Effect op answer s') : s'.threads.length = s.threads.length := by
  cases effect with
  | refused | blockedAgain | resumedIdle | endedMain => rfl
  | decided dec _ => exact dec.length_eq
  | admitted _ _ _ _ _ _ up | blockedAsleep _ _ _ up | blockedReady _ _ _ up
  | blockedRunning _ _ _ up | resumedBlocked _ _ up | resumedAsleep _ _ up | slept _ _ _ _ up
  | endedOther _ _ _ _ up | endedSelf _ _ _ up => exact up.length_eq

/-- Only a decision moves the counter or the processor. -/
theorem keeps (effect : s.Effect op answer s') (other : op ≠ .schedule) :
    s'.current = s.current ∧ s'.total = s.total := by
  cases effect with
  | refused | blockedAgain | resumedIdle | endedMain => exact ⟨rfl, rfl⟩
  | decided => exact absurd rfl other
  | admitted _ _ _ _ _ _ up | blockedAsleep _ _ _ up | blockedReady _ _ _ up
  | blockedRunning _ _ _ up | resumedBlocked _ _ up | resumedAsleep _ _ up | slept _ _ _ _ up
  | endedOther _ _ _ _ up | endedSelf _ _ _ up => exact ⟨up.current, up.total⟩

theorem of_schedule (effect : s.Effect .schedule answer s') :
    ∃ switch, answer = .switched switch ∧ s.Decision switch s' ∧ s'.parked = s.parked := by
  cases effect with
  | refused e asked => exact absurd rfl asked
  | decided dec parked => exact ⟨_, rfl, dec, parked⟩

theorem of_processEnd {tid : Tid} (effect : s.Effect (.terminate tid) (.ended .processEnd) s') :
    tid = 0 ∧ s' = { s with shutdown := true } := by
  cases effect with
  | endedMain => exact ⟨rfl, rfl⟩

theorem not_switched (effect : s.Effect op answer s') (asked : op ≠ .schedule) (switch : Switch) :
    answer ≠ .switched switch := by
  rintro rfl
  cases effect with
  | decided => exact asked rfl

theorem not_schedule_of_due (effect : s.Effect op answer s')
    (due : answer.callsForDecision = true) : op ≠ .schedule := by
  rintro rfl
  obtain ⟨switch, rfl, _⟩ := effect.of_schedule
  simp [Answer.callsForDecision] at due

/-- Where no decision is due, the current thread goes on running and nothing is parked. -/
theorem runs (effect : s.Effect op answer s') (coh : s.Coherent)
    (runs : s.state? s.current = some .running) (settled : answer.callsForDecision = false) :
    s'.state? s'.current = some .running ∧ s'.parked = s.parked := by
  obtain ⟨t, at_current, running⟩ := state?_eq_some.mp runs
  -- A slot that is not running is not the current one, so its change is not seen here.
  have frame : ∀ {i : Tid} {old new : Thread κ} {queue : List Tid} {s' : Scheduler κ},
      s.threads[i]? = some old → old.state ≠ .running → s.Update i new queue s' →
      s'.state? s'.current = some .running ∧ s'.parked = s.parked := by
    intro i old new queue s' slot resting up
    have other : s.current ≠ i := by
      rintro rfl
      rw [at_current] at slot
      exact resting (Option.some.inj slot ▸ running)
    refine ⟨?_, up.parked⟩
    rw [up.current, state?, up.elsewhere other]
    exact runs
  cases effect with
  | refused e asked => exact ⟨runs, rfl⟩
  | admitted program stack context spawned spare unused up =>
    exact frame spare (by simp [unused]) up
  | decided dec parked => exact ⟨dec.current ▸ dec.target_running coh, parked⟩
  | blockedAgain slot blocked => exact ⟨runs, rfl⟩
  | blockedAsleep slot spawned asleep up =>
    exact frame slot (fun h => by simp [h] at asleep) up
  | blockedReady slot spawned ready up => exact frame slot (by simp [ready]) up
  | blockedRunning slot spawned running up => simp [Answer.callsForDecision] at settled
  | resumedBlocked slot blocked up => exact frame slot (by simp [blocked]) up
  | resumedAsleep slot asleep up => exact frame slot (by simp [asleep]) up
  | resumedIdle slot free => exact ⟨runs, rfl⟩
  | slept slot spawned running positive up => simp [Answer.callsForDecision] at settled
  | endedMain => exact ⟨runs, rfl⟩
  | endedOther slot spawned used other up =>
    refine frame slot (fun h => other ?_) up
    exact (coh.slots _ _ slot).running h
  | endedSelf slot spawned running up => simp [Answer.callsForDecision] at settled

end Effect

end Scheduler

end RoundRobin
