import RoundRobin.Proofs.Host.Ledger
import RoundRobin.Proofs.Machine.Phases

/-!
# The stacks of a process in a run

Every step of a process keeps account of the stacks, as long as no other OS thread has made itself
the owner. So in every state of a run no two stacks have one name, those given back stay given
back, and those of the table are older ones that were there already, or new ones.
-/

namespace RoundRobin.Machine

variable {A : Actor → Option Nat → Prop} {m m' : Machine} {d : Dispatcher Control}

/-- The hand-over to the main thread moves no stack. -/
theorem owned_handedOver {s s' : Scheduler Control} {main : Thread Control}
    (slot : s.threads[0]? = some main)
    (threads : s'.threads = s.threads.set 0 { main with state := .running })
    (parked : s'.parked = s.parked) : s'.owned = s.owned := by
  refine Scheduler.owned_eq_of_slots parked fun i => ?_
  rw [threads, Scheduler.getElem?_set_map slot fun t => { t with state := .running },
    Option.map_map]
  cases s.threads[i]? with
  | none => rfl
  | some t => by_cases first : i = 0 <;> simp [first]

theorem Undisturbed.grown (kept : m.Undisturbed m') : m.host.Grown m'.host :=
  .same kept.dispatcher kept.unmapped kept.nextBase

theorem Hosted.grown (hosted : Hosted A m d) : m.host.Grown m.step.host := by
  obtain ⟨t, actor, slot, among, tenant, shape⟩ := hosted.current_slot
  have here := hosted.dispatcher
  cases hosted.transition tenant shape with
  | own _ _ kept | quits _ kept => exact kept.grown
  | failed f parked reason eq =>
    rw [eq]
    exact .same rfl rfl rfl
  | @dispatched op back given freed s timer period asked parked table served programs live host =>
    have perm := table.owned_perm hosted.coherent parked
    have higher : m.host.nextBase ≤ given.elim m.host.nextBase Stack.top := by
      cases given with
      | none => exact Nat.le_refl _
      | some stack => exact (hosted.given_base asked table).1 ▸ Nat.le_add_right ..
    rw [host]
    refine ⟨List.suffix_append .., higher, given, [], ?_, ?_⟩
    · simp only [Host.stock, here, Option.elim_some, List.nil_append, Dispatcher.publish]
      have whole := perm.append_right m.host.unmapped
      simp only [List.append_assoc] at whole
      exact (List.perm_append_comm_assoc ..).trans whole
    · rintro stack rfl
      exact hosted.given_base asked table
  | reaped control shape' eq =>
    rw [eq]
    refine .moved _ [] rfl rfl ?_
    simp only [here, Option.elim_some, List.nil_append, Scheduler.owned, Option.toList_none]
    exact List.perm_append_comm
  | installed control user slot' report perm programs live host control' =>
    rw [host]
    exact report.grown (by simpa [here] using perm)
  | @disposed guard rest t' signal _ control slot' programs live host control' =>
    rw [host]
    let s := d.scheduler.withStack d.scheduler.current none
    refine .moved _ (t'.stack.toList ++ s.releaseAll.2.owned) rfl rfl ?_
    have own := Scheduler.withStack_owned slot' none
    have all := s.releaseAll_owned
    simp only [here, Option.elim_some, Option.elim_none, List.nil_append, List.append_assoc]
    refine List.Perm.trans (List.Perm.append_left _ ?_) own
    exact List.perm_append_comm.trans (((List.reverse_perm _).append_right _).trans all)
  | exited _ main programs ending host =>
    rw [host]
    exact Host.teardown_grown here rfl
  | handedOver _ _ slot' _ threads _ _ parked _ _ host =>
    rw [host]
    refine .moved [] [] rfl rfl ?_
    simp [here, Dispatcher.publish, Scheduler.withContext_owned,
      owned_handedOver slot' threads parked]

theorem HandedOver.grown (handed : HandedOver m d) : m.host.Grown m.step.host := by
  rw [handed.step.2]
  exact Host.reap_grown handed.dispatcher

theorem Bare.grown (bare : m.Bare A) :
    m.step.host.owner = some otherThread ∨ m.host.Grown m.step.host := by
  cases bare.transition with
  | own kept | quits kept | left kept => exact .inr kept.grown
  | claimed foreign => exact .inl foreign
  | installed user report owner live host control' =>
    rw [host]
    exact .inr (report.grown (by simp [bare.nobody]))

theorem Phase.grown (phase : m.Phase A) :
    m.step.host.owner = some otherThread ∨ m.host.Grown m.step.host := by
  cases phase with
  | ended gone =>
    obtain ⟨e, ended⟩ := Option.isSome_iff_exists.mp gone
    rw [step_of_ended ended]
    exact .inr (.same rfl rfl rfl)
  | foreign owner => exact .inl (step_owner owner)
  | bare bare => exact bare.grown
  | hosted d hosted => exact .inr hosted.grown
  | handedOver d handed => exact .inr handed.grown
  | leaving live nobody leaving => exact .inr (leaving.step live nobody).1.grown

/-- Every state of a run keeps account of the stacks. -/
theorem Phase.tidy (phase : m.Phase A) (tidy : m.host.Tidy) (n : Nat)
    (home : (Machine.run n m).host.owner ≠ some otherThread) :
    m.host.Kept (Machine.run n m).host ∧ (Machine.run n m).host.Tidy := by
  refine phase.keeps (I := fun m' => m.host.Kept m'.host ∧ m'.host.Tidy) ⟨.refl _, tidy⟩ ?_ n home
  rintro m' phase ⟨kept, tidy⟩
  rcases phase.grown with foreign | grown
  · exact .inl foreign
  · exact .inr ⟨kept.trans grown.kept, grown.tidy tidy⟩

theorem process_tidy (main : List Instr) (programs : List (List Instr)) (system : System) :
    (process main programs system).host.Tidy where
  nodup := List.nodup_nil
  below := nofun

theorem opened_tidy {capacity : Nat} (one : 1 ≤ capacity) (fits : capacity < 2 ^ 60)
    {fresh : Scheduler Control} (new : Scheduler.new capacity = .ok fresh) (config : Config)
    (event : Event) (main : List Instr) (programs : List (List Instr)) (system : System) :
    (opened fresh config event main programs system).host.Tidy := by
  have empty := Host.fresh_owned one fits new none
  constructor <;> simp [opened, firstDispatcher, Host.stock, empty, Host.fresh]

end RoundRobin.Machine
