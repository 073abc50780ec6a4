import RoundRobin.Host.Basic
import RoundRobin.Proofs.Scheduler.Effect

/-!
# Refusals

Each operation is refused for its own reasons, and these are looked at before anything is changed.
`Refuses` lists them; one statement for each operation shows that the list is exact in every state
of a table with a main thread, however the state came about, and that a refusal leaves it alone.

The main thread is special in three ways: it cannot be blocked, it does not sleep, and it is known
whatever its slot says.
-/

namespace RoundRobin.Scheduler

variable {κ : Type}

/-- No slot of this number, or one that belongs to nobody. -/
def Vacant (s : Scheduler κ) (tid : Tid) : Prop :=
  s.threads.length ≤ tid ∨ s.state? tid = some .unused

/-- No slot is free, the main thread's apart. -/
def Full (s : Scheduler κ) : Prop :=
  ∀ i, 1 ≤ i → i < s.threads.length → s.state? i ≠ some .unused

/-- Why a request is refused, if stacks have `size` bytes and `map` makes their mappings. -/
def Refuses (s : Scheduler κ) (size : Nat) (map : Nat → Except OsError Nat) (r : Request)
    (e : Error) : Prop :=
  match r with
  | .spawn none => e = .noEntryPoint
  | .spawn (some _) =>
    (s.Full ∧ e = .tableFull) ∨
      (¬ s.Full ∧ ¬ Stack.Oversized size ∧
        ∃ reason, map (Stack.mappedLength size) = .error reason ∧ e = .stackAllocation reason)
  | .block tid => (tid = 0 ∨ s.Vacant tid) ∧ e = .invalidTid tid
  | .resume tid | .terminate tid | .quantaOf tid | .stateOf tid =>
    (tid ≠ 0 ∧ s.Vacant tid) ∧ e = .invalidTid tid
  | .sleep quanta => (s.current = 0 ∨ quanta = 0) ∧ e = .invalidSleep
  | .install _ => False

variable {s s' : Scheduler κ} {e : Error} {tid : Tid}

theorem freeSlot?_eq_none_iff : s.freeSlot? = none ↔ s.Full := by
  have unused : ∀ i : Tid, s.state? i = some .unused ↔
      ∃ t, s.threads[i]? = some t ∧ t.isUnused := fun i => by
    simp [state?_eq_some, Thread.isUnused]
  rw [freeSlot?, List.find?_eq_none]
  constructor
  · intro none i first last blank
    obtain ⟨t, slot, free⟩ := (unused i).mp blank
    have here : s.threads.tail[i - 1]? = some t := by
      rwa [List.getElem?_tail, Nat.sub_add_cancel first]
    exact none t (List.mem_of_getElem? here) free
  · intro full t member free
    obtain ⟨i, here⟩ := List.getElem?_of_mem member
    rw [List.getElem?_tail] at here
    exact full (i + 1) (by omega) (List.getElem?_eq_some_iff.mp here).1
      ((unused (i + 1)).mpr ⟨t, here, free⟩)

theorem error_eq_iff {α : Type} {d : Error} :
    (.error d : Except Error α) = .error e ↔ e = d := by
  rw [Except.error.injEq, eq_comm]

theorem refusal_eq_iff {α : Type} {d : Error} :
    (.ok (.error d, s) : Except Halt (Except Error α × Scheduler κ)) = .ok (.error e, s') ↔
      s' = s ∧ e = d := by
  rw [Except.ok.injEq, Prod.mk.injEq, error_eq_iff, and_comm, eq_comm]

/-- A thread is unknown if its slot is vacant and it is not the main thread. -/
theorem thread_eq_error_iff (main : 1 ≤ s.threads.length) :
    s.thread tid = .error e ↔ (tid ≠ 0 ∧ s.Vacant tid) ∧ e = .invalidTid tid := by
  cases slot : s.threads[tid]? with
  | none =>
    have beyond : s.threads.length ≤ tid := List.getElem?_eq_none_iff.mp slot
    have spawned : tid ≠ 0 := by
      rintro rfl
      omega
    have refused : s.thread tid = .error (.invalidTid tid) := by simp [thread, slot]
    rw [refused, error_eq_iff, and_iff_right ⟨spawned, .inl beyond⟩]
  | some t =>
    have inside : ¬ s.threads.length ≤ tid :=
      Nat.not_le_of_lt (List.getElem?_eq_some_iff.mp slot).1
    have vacant : s.Vacant tid ↔ t.isUnused := by
      simp [Vacant, inside, state?, slot, Thread.isUnused]
    have looked : s.thread tid =
        if tid = 0 ∨ ¬ t.isUnused then .ok t else .error (.invalidTid tid) := by
      simp only [thread, slot]
    rw [looked, vacant]
    split
    · next live =>
      refine ⟨fun refused => by simp at refused, fun unknown => ?_⟩
      exact absurd unknown.1.2 (live.resolve_left unknown.1.1)
    · next gone =>
      rw [not_or, not_not] at gone
      rw [error_eq_iff, and_iff_right gone]

theorem quantaOf_eq_error_iff (main : 1 ≤ s.threads.length) :
    s.quantaOf tid = .error e ↔ (tid ≠ 0 ∧ s.Vacant tid) ∧ e = .invalidTid tid :=
  map_eq_error.trans (thread_eq_error_iff main)

theorem stateOf_eq_error_iff (main : 1 ≤ s.threads.length) :
    s.stateOf tid = .error e ↔ (tid ≠ 0 ∧ s.Vacant tid) ∧ e = .invalidTid tid :=
  map_eq_error.trans (thread_eq_error_iff main)

variable {size : Nat} {map : Nat → Except OsError Nat}

/-- What a thread is first continued from plays no part in a refusal: `prime`, which could halt, is
not called. -/
theorem spawnWith_refuses_iff {entry : Option Nat} {prime : Tid → Stack → Except Halt (Option κ)} :
    s.spawnWith entry size map prime = .ok (.error e, s') ↔
      s' = s ∧ s.Refuses size map (.spawn entry) e := by
  cases entry with
  | none => exact refusal_eq_iff
  | some program =>
    cases free : s.freeSlot? with
    | none =>
      have full := freeSlot?_eq_none_iff.mp free
      have refused : s.spawnWith (some program) size map prime = .ok (.error .tableFull, s) := by
        simp [spawnWith, free]
      rw [refused, refusal_eq_iff]
      simp [Refuses, full]
    | some t =>
      have room : ¬ s.Full := fun full => by simp [freeSlot?_eq_none_iff.mpr full] at free
      by_cases large : Stack.Oversized size
      · obtain ⟨f, fault⟩ := Stack.request_oversized large map
        simp [spawnWith, free, fault, Refuses, room, large]
      · have requested := Stack.request_eq large map
        cases mapped : map (Stack.mappedLength size) with
        | error reason =>
          have refused : s.spawnWith (some program) size map prime =
              .ok (.error (.stackAllocation reason), s) := by
            simp [spawnWith, free, requested, mapped, Except.map]
          rw [refused, refusal_eq_iff]
          simp [Refuses, room, large, mapped]
        | ok base =>
          -- From here on a spawn can give up but not refuse.
          simp [spawnWith, free, requested, mapped, Except.map, Refuses, room, bind_eq_ok]

theorem spawn_refuses_iff {entry : Option Nat} {prime : Tid → Stack → Option κ} :
    s.spawn entry size map prime = .ok (.error e, s') ↔
      s' = s ∧ s.Refuses size map (.spawn entry) e :=
  spawnWith_refuses_iff

theorem block_refuses_iff (main : 1 ≤ s.threads.length) :
    s.block tid = .ok (.error e, s') ↔ s' = s ∧ s.Refuses size map (.block tid) e := by
  by_cases first : tid = 0
  · have refused : s.block tid = .ok (.error (.invalidTid tid), s) := if_pos first
    rw [refused, refusal_eq_iff]
    simp [Refuses, first]
  · have known : s.stateOf tid = .error e ↔ s.Vacant tid ∧ e = .invalidTid tid :=
      (stateOf_eq_error_iff main).trans (by rw [ne_eq, and_iff_right first])
    have refuses : s.Refuses size map (.block tid) e ↔ s.stateOf tid = .error e := by
      rw [known]
      simp [Refuses, first]
    rw [refuses, block, if_neg first]
    cases s.stateOf tid with
    | error d => rw [error_eq_iff, refusal_eq_iff]
    | ok state => cases state <;> simp <;> split <;> simp [bind_eq_ok]

theorem resume_refuses_iff (main : 1 ≤ s.threads.length) :
    s.resume tid = .ok (.error e, s') ↔ s' = s ∧ s.Refuses size map (.resume tid) e := by
  have refuses : s.Refuses size map (.resume tid) e ↔ s.stateOf tid = .error e :=
    (stateOf_eq_error_iff main).symm
  rw [refuses, resume]
  cases s.stateOf tid with
  | error d => rw [error_eq_iff, refusal_eq_iff]
  | ok state => cases state <;> simp [bind_eq_ok]

theorem sleep_refuses_iff {quanta : Nat} :
    s.sleep quanta = .ok (.error e, s') ↔ s' = s ∧ s.Refuses size map (.sleep quanta) e := by
  by_cases idle : s.current = 0 ∨ quanta = 0
  · have refused : s.sleep quanta = .ok (.error .invalidSleep, s) := if_pos idle
    rw [refused, refusal_eq_iff]
    simp [Refuses, idle]
  · simp [sleep, Refuses, idle, bind_eq_ok]

theorem terminate_refuses_iff (main : 1 ≤ s.threads.length) :
    s.terminate tid = .ok (.error e, s') ↔ s' = s ∧ s.Refuses size map (.terminate tid) e := by
  by_cases first : tid = 0
  · simp [terminate, first, Refuses]
  · have refuses : s.Refuses size map (.terminate tid) e ↔ s.thread tid = .error e :=
      (thread_eq_error_iff main).symm
    rw [refuses, terminate, if_neg first]
    cases s.thread tid with
    | error d => rw [error_eq_iff, refusal_eq_iff]
    | ok t =>
      simp only [bind_eq_ok, pure_eq_ok]
      by_cases own : tid = s.current <;> simp [own]

end RoundRobin.Scheduler
