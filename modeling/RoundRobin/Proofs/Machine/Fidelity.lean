import RoundRobin.Proofs.Machine.Chronicle

/-!
# The process does what the scheduler decided

A dispatcher with a manual timer, its main program and the programs that it spawns, all of them
regular: whatever the programs are and wherever they tick, every act is made by the thread that the
scheduler says is current, and the scheduler has only been through a disciplined run. Each thread
follows its program. Once it was ended it never acts again, whoever gets its number.
-/

namespace RoundRobin.Machine

open Scheduler (Op Bench Step Run)

variable {A : Actor → Option Nat → Prop} {m : Machine} {d : Dispatcher Control} {main : List Instr}
  {programs : List (List Instr)} {system : System} {start : Bench Unit} {r : Chronicle}

theorem decisions_mono (m : Machine) {k n : Nat} (before : k ≤ n) :
    (chronicle m k).decisions ≤ (chronicle m n).decisions := by
  induction before with
  | refl => exact Nat.le_refl _
  | step _ ih => exact Nat.le_trans ih (Nat.le_add_right ..)

/-- A process keeps to its course as long as there are numbers for its decisions. -/
theorem Course.run (course : Course main programs start (chronicle m 0) m) (n : Nat)
    (few : (chronicle m n).decisions < wordMax) :
    Course main programs start (chronicle m n) (Machine.run n m) := by
  induction n with
  | zero => exact course
  | succ n ih =>
    rw [run_step]
    exact (ih (Nat.lt_of_le_of_lt (decisions_mono m (Nat.le_succ n)) few)).step few

/-- A thread keeps the program that it was spawned with. -/
theorem Tracked.settled (tracked : Tracked main programs start r m d) {t : Thread Control}
    (slot : d.scheduler.threads[d.scheduler.current]? = some t) :
    m.Phase fun actor entry => actor = holder t.stack → entry = t.entry ∨ entry = none := by
  have hosted := tracked.hosted
  refine .hosted d (hosted.restrict ?_ ?_)
  · refine ⟨?_, fun _ _ _ _ => .inr rfl⟩
    intro g base entry _ above same
    have below := tracked.holder_lt slot same.symm
    omega
  · intro i u actor at_i live _ tenant same
    rw [tracked.first] at tenant
    by_cases here : i = d.scheduler.current
    · subst here
      rw [slot, Option.some.injEq] at at_i
      exact .inl (by rw [at_i])
    · refine absurd ?_ (tracked.holders_differ at_i live slot (tracked.current slot).1 here)
      rw [← tenant.holder_eq, same]

/-- A thread whose program is over asks for its own end. -/
theorem Tracked.ending (tracked : Tracked main programs start r m d) (acts : m.act = some .ending) :
    ∃ guard, m.step.control = [.perform (.terminate d.scheduler.current) guard .returning] := by
  have hosted := tracked.hosted
  obtain ⟨t, actor, slot, _, tenant, shape⟩ := hosted.current_slot
  have calm := Shape.calm_of_act shape acts
  obtain ⟨live, still, ⟨_, _, _, _, other⟩ | ⟨_, _, _, _, _, other⟩ |
    ⟨g, base, rest, control, _⟩⟩ := act_cases acts
  · simp at other
  · simp at other
  · rw [control] at calm
    cases calm with
    | user user => cases user
    | finish own =>
      have same := tracked.own_generation (own ▸ tenant)
      rw [step_of_frame live still control]
      simp only [work, finishThread, hosted.dispatcher, same, if_true, hosted.shownTid, guarded]
      exact ⟨_, rfl⟩

/-- Only a process that is tracked acts. -/
theorem Course.acting (course : Course main programs start r m) {a : Act} (acts : m.act = some a) :
    ∃ d, Tracked main programs start r m d := by
  cases course with
  | tracked d tracked => exact ⟨d, tracked⟩
  | handedOver d handed => simp [handed.silent] at acts
  | leaving _ _ _ _ leaving => simp [leaving.silent] at acts
  | ended how => simp [(act_cases acts).1] at how

end RoundRobin.Machine
