import RoundRobin.Proofs.Scheduler.Outline
import Mathlib.Data.List.Perm.Basic

/-!
# Who lives in the table

A resident is a live thread as its owner sees it: its stack, its program and what it has still to
do. For the current thread that is whatever it is doing, for the others it is the stored context. An
ordinary operation admits one resident, or ends one, or leaves all of them as they are; a decision
with the switch that carries it out leaves all of them as they are.

The stacks of a table are those of its slots and the parked one.
-/

namespace RoundRobin

variable {κ : Type}

/-- A live thread: what it owns, what it was spawned to do and what it goes on with. -/
structure Resident (κ : Type) where
  stack : Option Stack
  entry : Option Nat
  work : κ

/-- The same thread in another state. -/
structure Thread.Same (t u : Thread κ) : Prop where
  stack : u.stack = t.stack
  entry : u.entry = t.entry
  context : u.context = t.context
  unused_iff : u.state = .unused ↔ t.state = .unused

theorem Thread.Same.refl (t : Thread κ) : t.Same t := ⟨rfl, rfl, rfl, Iff.rfl⟩

namespace Scheduler

/-- The resident of slot `i` while the current thread goes on with `running`. -/
def resident (s : Scheduler κ) (running : κ) (i : Tid) : Option (Resident κ) :=
  match s.threads[i]? with
  | none => none
  | some t =>
    if t.state = .unused then none
    else if i = s.current then some ⟨t.stack, t.entry, running⟩
    else t.context.map fun context => ⟨t.stack, t.entry, context⟩

/-- Every live thread is a resident with `P`, and those that wait go on with something that
satisfies `W`. -/
def Peopled (s : Scheduler κ) (P : Tid → Resident κ → Prop) (W : κ → Prop) (running : κ) : Prop :=
  ∀ (i : Tid) (t : Thread κ), s.threads[i]? = some t → t.state ≠ .unused →
    ∃ r, s.resident running i = some r ∧ P i r ∧ (i ≠ s.current → W r.work)

/-- The stacks that the table is answerable for. -/
def owned (s : Scheduler κ) : List Stack := s.parked.toList ++ s.threads.filterMap Thread.stack

variable {s s' s₁ s₂ : Scheduler κ} {op : Op} {answer : Answer} {running : κ}
  {P P' : Tid → Resident κ → Prop} {W : κ → Prop}

theorem resident_current {t : Thread κ} (slot : s.threads[s.current]? = some t)
    (live : t.state ≠ .unused) :
    s.resident running s.current = some ⟨t.stack, t.entry, running⟩ := by
  simp [resident, slot, live]

theorem resident_waiting {i : Tid} {t : Thread κ} (slot : s.threads[i]? = some t)
    (live : t.state ≠ .unused) (other : i ≠ s.current) :
    s.resident running i = t.context.map fun context => ⟨t.stack, t.entry, context⟩ := by
  simp [resident, slot, live, other]

theorem resident_same {i : Tid} {t u : Thread κ} (slot : s.threads[i]? = some t)
    (slot' : s'.threads[i]? = some u) (same : t.Same u) (current : s'.current = s.current) :
    s'.resident running i = s.resident running i := by
  simp [resident, slot, slot', current, same.stack, same.entry, same.context, same.unused_iff]

theorem resident_thread {i : Tid} {t : Thread κ} {r : Resident κ}
    (slot : s.threads[i]? = some t) (found : s.resident running i = some r) :
    r.stack = t.stack ∧ r.entry = t.entry := by
  simp only [resident, slot] at found
  split at found
  · simp at found
  · split at found
    · cases Option.some.inj found
      exact ⟨rfl, rfl⟩
    · obtain ⟨context, _, rfl⟩ := Option.map_eq_some_iff.mp found
      exact ⟨rfl, rfl⟩

/-- The slot of the thread that runs. -/
theorem Peopled.current (peopled : s.Peopled P W running)
    (runs : s.state? s.current = some .running) :
    ∃ t, s.threads[s.current]? = some t ∧ t.state = .running ∧
      P s.current ⟨t.stack, t.entry, running⟩ := by
  obtain ⟨t, slot, state⟩ := state?_eq_some.mp runs
  have alive : t.state ≠ .unused := by simp [state]
  obtain ⟨r, found, holds, _⟩ := peopled _ t slot alive
  rw [resident_current slot alive, Option.some.injEq] at found
  exact ⟨t, slot, state, found ▸ holds⟩

/-- Those who do not run stay what they are, and whoever runs goes on with something else. -/
theorem Peopled.becomes (peopled : s.Peopled P W running) {next : κ}
    (others : ∀ i r, i ≠ s.current → P i r → P' i r)
    (own : ∀ t, s.threads[s.current]? = some t → t.state ≠ .unused →
      P' s.current ⟨t.stack, t.entry, next⟩) : s.Peopled P' W next := by
  intro i t slot live
  by_cases current : i = s.current
  · subst current
    exact ⟨_, resident_current slot live, own t slot live, fun other => absurd rfl other⟩
  · obtain ⟨r, found, holds, waits⟩ := peopled i t slot live
    rw [resident_waiting slot live current] at found
    exact ⟨r, by rw [resident_waiting slot live current, found], others i r current holds, waits⟩

namespace Update

variable {i : Tid} {new : Thread κ} {queue : List Tid}

theorem slot_cases (up : s.Update i new queue s') {j : Tid} {u : Thread κ}
    (slot : s'.threads[j]? = some u) :
    (j = i ∧ u = new) ∨ (j ≠ i ∧ s.threads[j]? = some u) := by
  by_cases same : j = i
  · subst same
    rw [up.here] at slot
    exact .inl ⟨rfl, (Option.some.inj slot).symm⟩
  · rw [up.elsewhere same] at slot
    exact .inr ⟨same, slot⟩

end Update

/-- A live thread after an operation was there before, or has just been admitted. -/
theorem Effect.slots (effect : s.Effect op answer s') (asked : op ≠ .schedule) {j : Tid}
    {u : Thread κ} (slot : s'.threads[j]? = some u) (live : u.state ≠ .unused) :
    (∃ t, s.threads[j]? = some t ∧ t.Same u) ∨
      (answer = .spawned j ∧ s.state? j = some .unused) := by
  have kept : s.threads[j]? = some u → ∃ t, s.threads[j]? = some t ∧ t.Same u :=
    fun slot => ⟨u, slot, .refl u⟩
  have moved : ∀ {i : Tid} {t : Thread κ} {state : ThreadState} {wakeAt : Nat} {queue : List Tid}
      {s' : Scheduler κ}, s.threads[i]? = some t → t.state ≠ .unused → state ≠ .unused →
      s.Update i { t with state, wakeAt } queue s' → s'.threads[j]? = some u →
      ∃ t, s.threads[j]? = some t ∧ t.Same u := by
    intro i t state wakeAt queue s' at_i used alive up slot
    rcases up.slot_cases slot with ⟨rfl, rfl⟩ | ⟨_, slot⟩
    · exact ⟨t, at_i, rfl, rfl, rfl, by simp [used, alive]⟩
    · exact ⟨u, slot, .refl u⟩
  cases effect with
  | refused | blockedAgain | resumedIdle | endedMain => exact .inl (kept slot)
  | decided => exact absurd rfl asked
  | admitted program stack context spawned spare unused up =>
    rcases up.slot_cases slot with ⟨rfl, rfl⟩ | ⟨_, slot⟩
    · exact .inr ⟨rfl, state?_eq_some.mpr ⟨_, spare, unused⟩⟩
    · exact .inl (kept slot)
  | blockedAsleep at_i _ asleep up =>
    exact .inl (moved at_i (fun h => by simp [h] at asleep) (by simp) up slot)
  | blockedReady at_i _ state up | blockedRunning at_i _ state up | resumedBlocked at_i state up
  | resumedAsleep at_i state up | slept at_i _ state _ up =>
    exact .inl (moved at_i (by simp [state]) (by simp) up slot)
  | endedOther _ _ _ _ up | endedSelf _ _ _ up =>
    rcases up.slot_cases slot with ⟨rfl, rfl⟩ | ⟨_, slot⟩
    · exact absurd rfl live
    · exact .inl (kept slot)

/-- A slot that is freed has nobody in it. -/
theorem Effect.freed {j : Tid} (effect : s.Effect (.terminate j) answer s') (spawned : j ≠ 0)
    (ends : ∀ e, answer ≠ .refused e) : s'.threads[j]? = some (Thread.unused j) := by
  cases effect with
  | refused e => exact absurd rfl (ends e)
  | endedMain => exact absurd rfl spawned
  | endedOther _ _ _ _ up | endedSelf _ _ _ up => exact up.here

theorem Peopled.effect (peopled : s.Peopled P W running) (effect : s.Effect op answer s')
    (asked : op ≠ .schedule)
    (new : ∀ (i : Tid) (u : Thread κ), answer = .spawned i → s.state? i = some .unused →
      s'.threads[i]? = some u →
      ∃ context, u.context = some context ∧ P i ⟨u.stack, u.entry, context⟩ ∧ W context)
    (runs : s.state? s.current = some .running) : s'.Peopled P W running := by
  have current := (effect.keeps asked).1
  intro i u slot live
  rcases effect.slots asked slot live with ⟨t, before, same⟩ | ⟨admitted, unused⟩
  · rw [resident_same before slot same current, current]
    exact peopled i t before (fun h => live (same.unused_iff.mpr h))
  · obtain ⟨context, primed, holds, waits⟩ := new i u admitted unused slot
    have other : i ≠ s'.current := by
      rintro rfl
      simp [current, runs] at unused
    refine ⟨_, ?_, holds, fun _ => waits⟩
    rw [resident_waiting slot live other, primed, Option.map_some]

namespace Decision

variable {switch : Switch}

theorem slots_same (dec : s.Decision switch s') (coh : s.Coherent) {i : Tid} {u : Thread κ}
    (slot : s'.threads[i]? = some u) : ∃ t, s.threads[i]? = some t ∧ t.Same u := by
  obtain ⟨t, before, rfl⟩ : ∃ t, s.threads[i]? = some t ∧ s.turn switch.target i t = u := by
    simpa [dec.slots] using slot
  obtain ⟨state, wakeAt, turned, ended⟩ := s.turn_eq switch.target i t
  refine ⟨t, before, ?_⟩
  rw [turned]
  refine ⟨rfl, rfl, rfl, ended.trans ⟨fun h => h.1, fun unused => ⟨unused, ?_⟩⟩⟩
  -- Whoever is picked stood in line, and nobody stands there who is not alive.
  rintro rfl
  obtain ⟨t', at_target, inLine⟩ := (coh.mem_line switch.target).mp (by simp [dec.line])
  rw [before] at at_target
  obtain rfl := Option.some.inj at_target
  simp [unused] at inLine

theorem same_slot (dec : s.Decision switch s') (coh : s.Coherent) {i : Tid} {t u : Thread κ}
    (before : s.threads[i]? = some t) (after : s'.threads[i]? = some u) : t.Same u := by
  obtain ⟨t', slot, same⟩ := dec.slots_same coh after
  rw [before] at slot
  exact Option.some.inj slot ▸ same

/-- A decision for the thread that was running changes no resident. -/
theorem peopled_idle (dec : s.Decision switch s') (coh : s.Coherent) (idle : switch.isIdle)
    (peopled : s.Peopled P W running) : s'.Peopled P W running := by
  have current : s'.current = s.current := by
    rw [dec.current, ← dec.source]
    exact (beq_iff_eq.mp idle).symm
  intro i u slot live
  obtain ⟨t, before, same⟩ := dec.slots_same coh slot
  rw [resident_same before slot same current, current]
  exact peopled i t before fun unused => live (same.unused_iff.mpr unused)

/-- A decision for another thread changes no resident either, once the two are exchanged: what the
outgoing thread goes on with is stored, and the incoming one goes on with what was stored. -/
theorem peopled_switched (dec : s.Decision switch s') (coh : s.Coherent) (busy : ¬ switch.isIdle)
    {back next : κ} (peopled : s.Peopled P W back) (waits : W back) {u : Thread κ}
    (target : s'.threads[switch.target]? = some u) (stored : u.context = some next) :
    (s'.withContext switch.source back).Peopled P W next := by
  have apart : switch.source ≠ switch.target := fun h => busy (beq_iff_eq.mpr h)
  have current : (s'.withContext switch.source back).current = switch.target := dec.current
  intro i v slot live
  rw [withContext_slot] at slot
  obtain ⟨v, at_i, rfl⟩ := Option.map_eq_some_iff.mp slot
  obtain ⟨t, before, same⟩ := dec.slots_same coh at_i
  have lives : t.state ≠ .unused := by
    intro unused
    apply live
    split <;> exact same.unused_iff.mpr unused
  obtain ⟨r, found, holds, awaits⟩ := peopled i t before lives
  rw [← withContext_slot] at slot
  by_cases outgoing : switch.source = i
  · subst outgoing
    rw [dec.source] at before found
    rw [resident_current before lives, Option.some.injEq] at found
    subst found
    simp only [if_true] at slot live
    refine ⟨_, ?_, holds, fun _ => waits⟩
    rw [resident_waiting slot live (by rw [current]; exact apart), Option.map_some, same.stack,
      same.entry]
  · simp only [if_neg outgoing] at slot live
    have other : i ≠ s.current := by
      rw [← dec.source]
      exact Ne.symm outgoing
    rw [resident_waiting before lives other, ← same.context] at found
    by_cases incoming : i = switch.target
    · subst incoming
      rw [target, Option.some.injEq] at at_i
      subst at_i
      rw [stored, Option.map_some, Option.some.injEq] at found
      subst found
      refine ⟨_, ?_, holds, fun _ => awaits other⟩
      rw [← current] at slot ⊢
      rw [resident_current slot live, same.stack, same.entry]
    · refine ⟨r, ?_, holds, fun _ => awaits other⟩
      rw [resident_waiting slot live (by rwa [current]), same.stack, same.entry]
      exact found

end Decision

theorem filterMap_set_perm {α β : Type} (f : α → Option β) {xs : List α} {i : Nat} {x : α}
    (slot : xs[i]? = some x) (y : α) :
    ((f x).toList ++ (xs.set i y).filterMap f).Perm ((f y).toList ++ xs.filterMap f) := by
  obtain ⟨inside, rfl⟩ := List.getElem?_eq_some_iff.mp slot
  have cons : ∀ z zs, (z :: zs).filterMap f = (f z).toList ++ zs.filterMap f := by
    intro z zs
    cases h : f z <;> simp [h]
  have changed := (List.set_perm_cons_eraseIdx inside y).filterMap f
  have before := (List.getElem_cons_eraseIdx_perm inside).filterMap f
  rw [cons] at changed before
  exact (changed.append_left _).trans
    ((List.perm_append_comm_assoc ..).trans (before.append_left _))

def Answer.freed : Answer → Option Stack
  | .ended (.removed given) => given
  | _ => none

def granted (s : Scheduler κ) : Answer → Option Stack
  | .spawned tid => s.threads[tid]?.bind Thread.stack
  | _ => none

namespace Update

variable {i : Tid} {old new : Thread κ} {queue : List Tid}

theorem owned_perm (up : s.Update i new queue s') (slot : s.threads[i]? = some old) :
    (old.stack.toList ++ s'.owned).Perm (new.stack.toList ++ s.owned) := by
  have table := filterMap_set_perm Thread.stack slot new
  simp only [owned, up.parked, up.threads]
  exact (List.perm_append_comm_assoc ..).trans
    ((table.append_left _).trans (List.perm_append_comm_assoc ..))

theorem owned_same (up : s.Update i new queue s') (slot : s.threads[i]? = some old)
    (same : new.stack = old.stack) : s'.owned.Perm s.owned := by
  have perm := up.owned_perm slot
  rw [same] at perm
  exact (List.perm_append_left_iff _).mp perm

end Update

/-- No stack gets lost or comes from nowhere in an operation. -/
theorem Effect.owned_perm (effect : s.Effect op answer s') (asked : op ≠ .schedule)
    (coh : s.Coherent) (parked : s.parked = none) :
    (answer.freed.toList ++ s'.owned).Perm ((s'.granted answer).toList ++ s.owned) := by
  cases effect with
  | refused | blockedAgain | resumedIdle | endedMain => exact List.Perm.refl s.owned
  | decided => exact absurd rfl asked
  | admitted program stack context spawned spare unused up =>
    have bare := (coh.slots _ _ spare).stack (Nat.pos_of_ne_zero spawned)
    simp only [unused, ne_eq, not_true, iff_false, Option.not_isSome_iff_eq_none] at bare
    have perm := up.owned_perm spare
    rw [bare] at perm
    simpa [Answer.freed, granted, up.here] using perm
  | blockedAsleep slot _ _ up | blockedReady slot _ _ up | blockedRunning slot _ _ up
  | resumedBlocked slot _ up | resumedAsleep slot _ up | slept slot _ _ _ up =>
    exact up.owned_same slot rfl
  | endedOther slot spawned used other up => exact up.owned_perm slot
  | endedSelf slot spawned running up =>
    have perm := up.owned_perm slot
    rw [owned, up.parked, parked] at perm
    exact perm

theorem owned_eq_of_slots (parked : s'.parked = s.parked)
    (slots : ∀ i : Tid, s'.threads[i]?.map Thread.stack = s.threads[i]?.map Thread.stack) :
    s'.owned = s.owned := by
  have same : s'.threads.map Thread.stack = s.threads.map Thread.stack := by
    apply List.ext_getElem?
    intro i
    rw [List.getElem?_map, List.getElem?_map, slots]
  have table : ∀ threads : List (Thread κ),
      threads.filterMap Thread.stack = (threads.map Thread.stack).filterMap id := by simp
  rw [owned, parked, table, same, ← table, owned]

theorem Decision.owned_eq {switch : Switch} (dec : s.Decision switch s')
    (parked : s'.parked = s.parked) : s'.owned = s.owned := by
  refine owned_eq_of_slots parked fun i => ?_
  rw [dec.slots, Option.map_map]
  cases s.threads[i]? with
  | none => rfl
  | some t =>
    obtain ⟨_, _, turned, _⟩ := s.turn_eq switch.target i t
    simp [turned]

theorem withContext_owned (s : Scheduler κ) (i : Tid) (context : κ) :
    (s.withContext i context).owned = s.owned := by
  refine owned_eq_of_slots rfl fun j => ?_
  rw [withContext_slot, Option.map_map]
  cases s.threads[j]? with
  | none => rfl
  | some t => by_cases here : i = j <;> simp [here]

/-- A teardown gives back every stack but the main thread's. -/
theorem releaseAll_owned (s : Scheduler κ) :
    (s.releaseAll.1.mappings ++ s.releaseAll.2.owned).Perm s.owned := by
  have blank : (s.threads.tail.map fun t => t.release.2).filterMap Thread.stack = [] := by
    rw [List.filterMap_map]
    exact List.filterMap_eq_nil_iff.mpr fun _ _ => rfl
  have table : s.threads.filterMap Thread.stack =
      (s.threads.take 1).filterMap Thread.stack ++ s.threads.tail.filterMap Thread.stack := by
    rw [← List.filterMap_append, ← List.drop_one, List.take_append_drop]
  simp only [releaseAll, Teardown.mappings, owned, Option.toList_none, List.nil_append,
    List.filterMap_append, blank, List.append_nil, table, List.append_assoc]
  exact List.perm_append_comm.append_left _

/-- A fresh thread has the program that was asked for, on a stack of the size that was asked for,
and starts as it was primed. -/
theorem spawned_slot {b b' : Bench κ} {prime : Tid → Stack → Option κ} {entry : Option Nat}
    {size : Nat} {map : Nat → Except OsError Nat} {tid : Tid} {u : Thread κ}
    (formed : b.scheduler.Formed)
    (applied : b.apply prime (.spawn entry size map) = .ok (.spawned tid, b'))
    (slot : b'.scheduler.threads[tid]? = some u) :
    ∃ program stack, entry = some program ∧ Stack.request map size = .ok (.ok stack) ∧
      u.entry = some program ∧ u.stack = some stack ∧ u.context = prime tid stack := by
  simp only [Bench.apply, bind_eq_ok, Prod.exists, pure_eq_ok, Except.ok.injEq] at applied
  obtain ⟨answer, s', spawned, concluded⟩ := applied
  cases answer with
  | error e => simp [Bench.conclude] at concluded
  | ok tid' =>
    simp only [Bench.conclude, Prod.mk.injEq, Answer.spawned.injEq] at concluded
    obtain ⟨rfl, rfl⟩ := concluded
    obtain ⟨program, stack, old, ready, rfl, asked, found, rfl, _, rfl⟩ :=
      formed.spawn_inv spawned
    have inside := (List.getElem?_eq_some_iff.mp (formed.freeSlot?_eq_some found).2.1).1
    simp only [List.getElem?_set_self inside, Option.some.injEq] at slot
    subst slot
    exact ⟨program, stack, rfl, asked, rfl, rfl, rfl⟩

end Scheduler

end RoundRobin
