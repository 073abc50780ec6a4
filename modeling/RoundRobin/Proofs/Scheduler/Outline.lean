import RoundRobin.Proofs.Scheduler.Correspondence

/-!
# Schedulers without contexts

What suspended threads are continued from is stored in the table and never looked at. A slot
corresponds to its outline, which has no context, and so operations on a table and on its outline
give the same answers and outlines of the same states. Storing a context does not show in the
outline. So whoever carries out the switches may store contexts in between, and the outlines still
make up one disciplined run.
-/

namespace RoundRobin

variable {κ : Type}

def Thread.outline (t : Thread κ) : Thread Unit :=
  ⟨t.tid, t.state, none, t.stack, t.entry, t.quanta, t.wakeAt⟩

namespace Scheduler

def outline (s : Scheduler κ) : Scheduler Unit :=
  ⟨s.threads.map Thread.outline, s.ready, s.current, s.total, s.parked, s.shutdown⟩

def Bench.outline (b : Bench κ) : Bench Unit := ⟨b.scheduler.outline, b.held⟩

/-- A slot corresponds to its outline. -/
theorem outline_correspondence (prime : Tid → Stack → Option κ) :
    Correspondence prime (fun _ _ => none) fun t u => t.outline = u where
  tid := by rintro t _ rfl; rfl
  state := by rintro t _ rfl; rfl
  stack := by rintro t _ rfl; rfl
  due := by rintro t _ rfl now; rfl
  moved := by rintro t _ rfl state _; rfl
  dated := by rintro t _ rfl state wakeAt; rfl
  picked := by rintro t _ rfl; rfl
  admitted := by rintro t _ rfl program tid stack; rfl
  blank := fun _ => rfl

/-- Only the outline is like the scheduler in this way. -/
theorem alike_outline_iff {s : Scheduler κ} {s' : Scheduler Unit} :
    s.Alike (fun t u => t.outline = u) s' ↔ s.outline = s' := by
  have slots_iff : ∀ table, List.Forall₂ (fun t u => t.outline = u) s.threads table ↔
      s.threads.map Thread.outline = table := by
    intro table
    rw [← List.forall₂_map_left_iff, List.forall₂_eq_eq_eq]
  constructor
  · rintro ⟨slots⟩
    rw [← (slots_iff _).mp slots]
    rfl
  · rintro rfl
    exact .intro ((slots_iff _).mpr rfl)

theorem Bench.alike_outline_iff {b : Bench κ} {b' : Bench Unit} :
    b.Alike (fun t u => t.outline = u) b' ↔ b.outline = b' := by
  obtain ⟨s', held⟩ := b'
  rw [Bench.outline, Bench.mk.injEq, ← Scheduler.alike_outline_iff]
  exact ⟨fun alike => ⟨alike.scheduler, alike.held⟩, fun both => ⟨both.1, both.2⟩⟩

def Step.outline (step : Step κ) : Step Unit :=
  ⟨step.before.outline, step.op, step.answer, step.middle.outline, step.decision,
    step.after.outline⟩

theorem Step.Valid.outline {prime : Tid → Stack → Option κ} {step : Step κ}
    (valid : step.Valid prime) : step.outline.Valid fun _ _ => none := by
  obtain ⟨middle, after, valid', between, afterwards⟩ :=
    (outline_correspondence prime).step valid (Bench.alike_outline_iff.mpr rfl)
  rw [← Bench.alike_outline_iff.mp between, ← Bench.alike_outline_iff.mp afterwards] at valid'
  exact valid'

theorem outline_unparked {s : Scheduler κ} (free : s.parked = none) :
    { s.outline with parked := none } = s.outline := by
  simp [outline, free]

def withContext (s : Scheduler κ) (i : Tid) (context : κ) : Scheduler κ :=
  { s with threads := s.threads.modify i fun t => { t with context := some context } }

theorem saveContext_eq {s : Scheduler κ} {i : Tid} (inside : i < s.threads.length) (context : κ) :
    s.saveContext i context = .ok (s.withContext i context) := by
  simp [saveContext, withContext, Checked.get_eq_ok (List.getElem?_eq_getElem inside),
    Checked.set_eq_ok inside, List.modify_eq_set_get _ inside]

theorem withContext_slot (s : Scheduler κ) (i : Tid) (context : κ) (j : Tid) :
    (s.withContext i context).threads[j]? =
      s.threads[j]?.map fun t => if i = j then { t with context := some context } else t := by
  rw [withContext, List.getElem?_modify]
  cases s.threads[j]? with
  | none => rfl
  | some t => by_cases here : i = j <;> simp [here]

theorem withContext_outline (s : Scheduler κ) (i : Tid) (context : κ) :
    (s.withContext i context).outline = s.outline := by
  have threads : (s.withContext i context).threads.map Thread.outline =
      s.threads.map Thread.outline := by
    apply List.ext_getElem?
    intro j
    rw [List.getElem?_map, List.getElem?_map, withContext_slot, Option.map_map]
    congr
    funext t
    simp only [Function.comp_apply]
    split <;> rfl
  simp only [outline, threads]
  rfl

end Scheduler

end RoundRobin
