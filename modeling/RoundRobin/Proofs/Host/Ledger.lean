import RoundRobin.Proofs.Host.Install

/-!
# The stacks of a process

Every stack that was ever mapped is in one place: in the thread table, or parked there, or given
back. A step may map one stack more, under the next name, and may move stacks from the table to
those given back, where they stay. So no stack is given back twice, and none comes to life again.
The only stack that drops out of the account is the one that a thread runs on when it ends the
dispatcher.
-/

namespace RoundRobin.Host

variable {κ : Type} {h h' : Host κ} {d : Dispatcher κ}

/-- The stacks of the table and those given back. -/
def stock (h : Host κ) : List Stack :=
  (h.dispatcher.elim [] fun d => d.scheduler.owned) ++ h.unmapped

/-- What a step does to the stacks. -/
structure Grown (h h' : Host κ) : Prop where
  released : h.unmapped <:+ h'.unmapped
  higher : h.nextBase ≤ h'.nextBase
  account : ∃ (given : Option Stack) (lost : List Stack),
    (lost ++ h'.stock).Perm (given.toList ++ h.stock) ∧
      ∀ stack, given = some stack → stack.base = h.nextBase ∧ stack.base < h'.nextBase

/-- No two stacks have one name, and the next name is above all of them. -/
structure Tidy (h : Host κ) : Prop where
  nodup : (h.stock.map Stack.base).Nodup
  below : ∀ stack ∈ h.stock, stack.base < h.nextBase

/-- What a run does to the stacks. -/
structure Kept (h h' : Host κ) : Prop where
  released : h.unmapped <:+ h'.unmapped
  higher : h.nextBase ≤ h'.nextBase
  account : ∀ stack ∈ h'.stock, stack ∈ h.stock ∨ h.nextBase ≤ stack.base

theorem Kept.refl (h : Host κ) : h.Kept h :=
  ⟨List.suffix_rfl, Nat.le_refl _, fun _ mem => .inl mem⟩

theorem Kept.trans {h'' : Host κ} (first : h.Kept h') (next : h'.Kept h'') : h.Kept h'' where
  released := first.released.trans next.released
  higher := Nat.le_trans first.higher next.higher
  account := by
    intro stack mem
    rcases next.account stack mem with old | new
    · exact first.account stack old
    · exact .inr (Nat.le_trans first.higher new)

theorem Grown.kept (grown : h.Grown h') : h.Kept h' where
  released := grown.released
  higher := grown.higher
  account := by
    intro stack mem
    obtain ⟨given, lost, perm, fresh⟩ := grown.account
    rcases List.mem_append.mp (perm.subset (List.mem_append_right _ mem)) with new | old
    · have base := (fresh stack (Option.mem_toList.mp new)).1
      exact .inr (Nat.le_of_eq base.symm)
    · exact .inl old

/-- A new stack begins above all others. -/
theorem Grown.tidy (grown : h.Grown h') (tidy : h.Tidy) : h'.Tidy := by
  obtain ⟨given, lost, perm, fresh⟩ := grown.account
  have below : ∀ stack ∈ given.toList ++ h.stock, stack.base < h'.nextBase := by
    intro stack mem
    rcases List.mem_append.mp mem with new | old
    · exact (fresh stack (Option.mem_toList.mp new)).2
    · exact Nat.lt_of_lt_of_le (tidy.below stack old) grown.higher
  have nodup : ((given.toList ++ h.stock).map Stack.base).Nodup := by
    cases given with
    | none => exact tidy.nodup
    | some stack =>
      refine List.nodup_cons.mpr ⟨?_, tidy.nodup⟩
      intro mem
      obtain ⟨other, old, same⟩ := List.mem_map.mp mem
      have lower := tidy.below other old
      rw [same, (fresh stack rfl).1] at lower
      exact Nat.lt_irrefl _ lower
  constructor
  · have whole := (perm.map Stack.base).nodup_iff.mpr nodup
    rw [List.map_append] at whole
    exact (List.nodup_append.mp whole).2.1
  · intro stack mem
    exact below stack (perm.subset (List.mem_append_right _ mem))

/-- A step that moves no stack. -/
theorem Grown.same (dispatcher : h'.dispatcher = h.dispatcher) (unmapped : h'.unmapped = h.unmapped)
    (nextBase : h'.nextBase = h.nextBase) : h.Grown h' where
  released := unmapped ▸ List.suffix_rfl
  higher := Nat.le_of_eq nextBase.symm
  account := ⟨none, [], by rw [stock, dispatcher, unmapped]; exact .refl _, by simp⟩

/-- A step that moves stacks from the table to those given back, or out of the account. -/
theorem Grown.moved (gone lost : List Stack) (nextBase : h'.nextBase = h.nextBase)
    (unmapped : h'.unmapped = gone ++ h.unmapped)
    (perm : (lost ++ ((h'.dispatcher.elim [] fun d => d.scheduler.owned) ++ gone)).Perm
      (h.dispatcher.elim [] fun d => d.scheduler.owned)) : h.Grown h' where
  released := by rw [unmapped]; exact List.suffix_append ..
  higher := Nat.le_of_eq nextBase.symm
  account := by
    refine ⟨none, lost, ?_, by simp⟩
    simpa [stock, unmapped, List.append_assoc] using perm.append_right h.unmapped

theorem teardown_grown (dispatcher : h.dispatcher = some d) {d' : Dispatcher κ}
    (same : d'.scheduler.owned = d.scheduler.owned) : h.Grown (h.teardown d').2 := by
  obtain ⟨timer, signal, torn, _⟩ := h.teardown_eq d'
  rw [torn]
  refine .moved _ [] rfl rfl ?_
  have all := d'.scheduler.releaseAll_owned
  rw [same] at all
  simp only [dispatcher, Option.elim_some, List.nil_append]
  exact (List.perm_append_comm.trans ((List.reverse_perm _).append_right _)).trans all

theorem reap_grown (dispatcher : h.dispatcher = some d) : h.Grown (h.reap d).2 := by
  let s : Scheduler κ := { d.scheduler with parked := none }
  let emptied : Host κ := (h.put { d with scheduler := s }).unmap d.scheduler.parked.toList
  have given : d.scheduler.parked.toList.reverse = d.scheduler.parked.toList := by
    cases d.scheduler.parked <;> rfl
  have taken : (s.owned ++ d.scheduler.parked.toList).Perm d.scheduler.owned :=
    List.perm_append_comm
  have reaped : (h.reap d).2 =
      if s.shutdown && s.current == 0 then (emptied.teardown { d with scheduler := s }).2
      else emptied := apply_ite Prod.snd ..
  rw [reaped]
  split
  · obtain ⟨timer, signal, torn, _⟩ := emptied.teardown_eq { d with scheduler := s }
    rw [torn]
    refine .moved (s.releaseAll.1.mappings.reverse ++ d.scheduler.parked.toList) [] rfl ?_ ?_
    · simp [emptied, unmap, put, given]
    · have all := s.releaseAll_owned
      have both : (s.releaseAll.2.owned ++ s.releaseAll.1.mappings.reverse).Perm s.owned :=
        List.perm_append_comm.trans (((List.reverse_perm _).append_right _).trans all)
      simpa [dispatcher] using (both.append_right _).trans taken
  · refine .moved d.scheduler.parked.toList [] rfl ?_ ?_
    · simp [emptied, unmap, put, given]
    · simpa [dispatcher, emptied, unmap, put] using taken

/-- The main thread's stack is the only one of a fresh table. -/
theorem fresh_owned {capacity : Nat} (one : 1 ≤ capacity) (fits : capacity < 2 ^ 60)
    {fresh : Scheduler κ} (new : Scheduler.new capacity = .ok fresh) (own : Option Stack) :
    (fresh.withStack 0 own).owned = own.toList := by
  obtain ⟨start, created, bench, settled, size, _⟩ := Scheduler.new_scheduler (κ := κ) one fits
  obtain rfl : start = fresh := Except.ok.inj (created.symm.trans new)
  obtain ⟨main, slot⟩ := Scheduler.Coherent.slot_of_lt (s := start) (size ▸ one)
  have blank : start.owned = [] := by
    rw [Scheduler.owned, settled.parked]
    refine List.filterMap_eq_nil_iff.mpr fun t mem => ?_
    obtain ⟨i, at_i⟩ := List.getElem?_of_mem mem
    rw [Scheduler.new_slots bench at_i]
    split <;> rfl
  have bare : main.stack = none := by
    rw [Scheduler.new_slots bench slot]
    rfl
  have perm := Scheduler.withStack_owned slot own
  simp only [bare, blank, Option.toList_none, List.nil_append, List.append_nil] at perm
  cases own with
  | none => exact List.perm_nil.mp perm
  | some stack => exact List.perm_singleton.mp perm

theorem Installed.grown {config : Config} {own : Option Stack} {gone : List Stack}
    {fresh : Scheduler κ} {report : Report κ} (installed : h.Installed config own gone fresh report)
    (perm : (own.toList ++ gone).Perm (h.dispatcher.elim [] fun d => d.scheduler.owned)) :
    h.Grown report.host := by
  obtain ⟨timer, signal, host, _⟩ := installed.host
  rw [host]
  refine .moved _ [] rfl rfl ?_
  simpa [fresh_owned (by decide) (by decide) installed.new own] using perm

namespace Tidy

variable (tidy : h.Tidy) (dispatcher : h.dispatcher = some d)
include tidy dispatcher

theorem bases : ((d.scheduler.parked.toList ++ d.scheduler.threads.filterMap Thread.stack ++
    h.unmapped).map Stack.base).Nodup := by
  have nodup := tidy.nodup
  rwa [stock, dispatcher] at nodup

/-- The stacks of two threads are different ones. -/
theorem apart {i j : Tid} {t u : Thread κ} {a b : Stack} (at_i : d.scheduler.threads[i]? = some t)
    (at_j : d.scheduler.threads[j]? = some u) (own : t.stack = some a) (other : u.stack = some b)
    (differ : i ≠ j) : a.base ≠ b.base := by
  have nodup := tidy.bases dispatcher
  rw [List.map_append, List.map_append] at nodup
  have inside := (List.nodup_append.mp (List.nodup_append.mp nodup).1).2.1
  rw [List.Nodup, List.pairwise_map, List.pairwise_filterMap, List.pairwise_iff_getElem] at inside
  obtain ⟨hi, rfl⟩ := List.getElem?_eq_some_iff.mp at_i
  obtain ⟨hj, rfl⟩ := List.getElem?_eq_some_iff.mp at_j
  rcases Nat.lt_or_gt_of_ne differ with less | more
  · exact inside i j hi hj less a own b other
  · exact (inside j i hj hi more b other a own).symm

/-- A stack that is parked or given back is not that of a live thread. -/
theorem away {i : Tid} {t : Thread κ} {a b : Stack} (at_i : d.scheduler.threads[i]? = some t)
    (own : t.stack = some a) (gone : d.scheduler.parked = some b ∨ b ∈ h.unmapped) :
    a.base ≠ b.base := by
  have nodup := tidy.bases dispatcher
  rw [List.map_append, List.map_append] at nodup
  have there : a.base ∈ (d.scheduler.threads.filterMap Thread.stack).map Stack.base :=
    List.mem_map_of_mem (List.mem_filterMap.mpr ⟨t, List.mem_of_getElem? at_i, own⟩)
  obtain ⟨table, _, given⟩ := List.nodup_append.mp nodup
  rcases gone with parked | unmapped
  · refine ((List.nodup_append.mp table).2.2 b.base ?_ a.base there).symm
    simp [parked]
  · exact given a.base (List.mem_append_right _ there) b.base (List.mem_map_of_mem unmapped)

theorem base_lt {i : Tid} {t : Thread κ} {a : Stack} (at_i : d.scheduler.threads[i]? = some t)
    (own : t.stack = some a) : a.base < h.nextBase := by
  apply tidy.below
  rw [stock, dispatcher]
  exact List.mem_append_left _ (List.mem_append_right _
    (List.mem_filterMap.mpr ⟨t, List.mem_of_getElem? at_i, own⟩))

end Tidy

end RoundRobin.Host
