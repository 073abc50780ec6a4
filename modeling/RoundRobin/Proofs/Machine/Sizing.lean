import RoundRobin.Proofs.Scheduler.Allocation
import RoundRobin.Proofs.Machine.Phases

/-!
# The size that is set is the size that a thread gets

A size is rounded when it is set, and what comes of it is rounded once more when a thread is spawned.
Both agree on whole pages, so the second changes nothing: a thread has as many bytes above its guard
as the settings say. A thread keeps its stack for as long as it lives, so this can be said of every
state of a process, and of every thread that its dispatcher has spawned.
-/

namespace RoundRobin

namespace Scheduler

variable {κ : Type} {s s' : Scheduler κ} {size : Nat}

/-- Whatever state a spawn finds, the thread that it admits has the stack that was asked for. -/
theorem spawn_stack {entry : Option Nat} {map : Nat → Except OsError Nat}
    {prime : Tid → Stack → Option κ} {tid : Tid}
    (spawned : s.spawn entry size map prime = .ok (.ok tid, s')) :
    ∃ t stack, s'.threads[tid]? = some t ∧ t.stack = some stack ∧
      Stack.request map size = .ok (.ok stack) := by
  obtain ⟨_, stack, _, _, _, _, _, _, _, rfl, asked, _, _, put, _, rfl⟩ := spawnWith_inv spawned
  exact ⟨_, stack, Checked.getElem?_of_set put, rfl, asked⟩

/-- Every spawned thread has a stack, of the fewest whole pages that hold `size`. -/
def Sized (s : Scheduler κ) (size : Nat) : Prop :=
  ∀ (i : Tid) (t : Thread κ), i ≠ 0 → s.threads[i]? = some t → t.state ≠ .unused →
    ∃ stack, t.stack = some stack ∧ IsLeast (wholePages size pageSize) stack.usable

theorem Sized.keep (sized : s.Sized size)
    (kept : ∀ (i : Tid) (u : Thread κ), i ≠ 0 → s'.threads[i]? = some u → u.state ≠ .unused →
      ∃ t, s.threads[i]? = some t ∧ t.state ≠ .unused ∧ u.stack = t.stack) : s'.Sized size := by
  intro i u spawned slot live
  obtain ⟨t, before, lived, same⟩ := kept i u spawned slot live
  rw [same]
  exact sized i t spawned before lived

theorem new_sized {capacity : Nat} (new : Scheduler.new capacity = .ok s) (own : Option Stack)
    (size : Nat) : (s.withStack 0 own).Sized size := by
  have bench : Bench.new capacity = .ok ⟨s, none⟩ := by simp [Bench.new, new]
  intro i t spawned slot live
  rw [withStack_slot] at slot
  obtain ⟨u, fresh, rfl⟩ := Option.map_eq_some_iff.mp slot
  rw [new_slots bench fresh, if_neg spawned, if_neg (Ne.symm spawned)] at live
  exact absurd rfl live

theorem releaseAll_sized (s : Scheduler κ) (size : Nat) : s.releaseAll.2.Sized size := by
  intro i u spawned slot live
  obtain ⟨t, _, rfl⟩ := releaseAll_slot_inv slot
  rw [if_neg spawned] at live
  exact absurd rfl live

theorem Dispatch.sized {prime : Tid → Stack → Option κ} {P : Tid → Resident κ → Prop} {W : κ → Prop}
    {op : Op} {back next running : κ} {given freed : Option Stack}
    (dispatch : Dispatch prime W s op back given freed s' next) (coh : s.Coherent)
    (runs : s.state? s.current = some .running) (peopled : s.Peopled P W running)
    (sized : s.Sized size)
    (asked : ∀ program size' map, op = .spawn (some program) size' map → size' = size)
    (primes : ∀ i stack, ∃ context, prime i stack = some context ∧ W context) :
    s'.Sized size := by
  let Roomy (i : Tid) (r : Resident κ) : Prop :=
    i ≠ 0 → ∃ stack, r.stack = some stack ∧ IsLeast (wholePages size pageSize) stack.usable
  have before : s.Peopled Roomy W running := by
    intro i t slot live
    obtain ⟨r, found, _, waits⟩ := peopled i t slot live
    refine ⟨r, found, fun spawned => ?_, waits⟩
    rw [(resident_thread slot found).1]
    exact sized i t spawned slot live
  have after : s'.Peopled Roomy W next := by
    refine dispatch.peopled coh runs before (fun _ _ _ roomy => roomy) ?_ ?_
    · intro _ t slot spawned
      obtain ⟨u, there, running⟩ := state?_eq_some.mp runs
      obtain rfl := Option.some.inj (slot.symm.trans there)
      exact sized _ t spawned slot (by simp [running])
    · rintro i program size' map stack rfl request _
      obtain rfl := asked program size' map rfl
      obtain ⟨context, primed, waits⟩ := primes i stack
      exact ⟨context, primed, fun _ => ⟨stack, rfl, Stack.usable_least request⟩, waits⟩
  intro i u spawned slot live
  obtain ⟨r, found, roomy, _⟩ := after i u slot live
  rw [← (resident_thread slot found).1]
  exact roomy spawned

end Scheduler

namespace Host

variable {κ : Type} {h : Host κ} {d : Dispatcher κ}

def Sized (h : Host κ) : Prop :=
  ∀ d, h.dispatcher = some d → d.scheduler.Sized d.config.stackSize

theorem Sized.of_dispatcher (there : h.dispatcher = some d)
    (sized : d.scheduler.Sized d.config.stackSize) : h.Sized := by
  intro d' there'
  obtain rfl := Option.some.inj (there.symm.trans there')
  exact sized

theorem Sized.of_nobody (nobody : h.dispatcher = none) : h.Sized := by
  intro d there
  simp [nobody] at there

theorem teardown_sized (h : Host κ) (d : Dispatcher κ) : (h.teardown d).2.Sized := by
  obtain ⟨timer, signal, torn, _⟩ := h.teardown_eq d
  rw [torn]
  exact .of_dispatcher rfl (Scheduler.releaseAll_sized _ _)

/-- A dispatcher that spawns goes by its settings, and keeps them. -/
theorem perform_spawn_stack {objections : Objections} {prime : Nat → Tid → Stack → Option κ}
    {entry : Option Nat} {tid : Tid} {report : Report κ} (there : h.dispatcher = some d)
    (performed : h.perform objections prime (.spawn entry) = .ok report)
    (admitted : report.outcome = .returns (.tid tid)) :
    ∃ d' t stack, report.host.dispatcher = some d' ∧ d'.config = d.config ∧
      d'.scheduler.threads[tid]? = some t ∧ t.stack = some stack ∧
      IsLeast (wholePages d.config.stackSize pageSize) stack.usable := by
  simp only [perform, there, spawn, bind_eq_ok] at performed
  obtain ⟨⟨answer, s⟩, spawned, performed⟩ := performed
  cases answer with
  | error e =>
    obtain rfl := Except.ok.inj performed
    simp at admitted
  | ok tid' =>
    obtain rfl := Except.ok.inj performed
    obtain rfl : tid' = tid := by simpa using admitted
    obtain ⟨t, stack, slot, own, request⟩ := Scheduler.spawn_stack spawned
    exact ⟨_, t, stack, rfl, rfl, slot, own, Stack.usable_least request⟩

theorem Installed.sized {config : Config} {own : Option Stack} {gone : List Stack}
    {fresh : Scheduler κ} {report : Report κ}
    (installed : h.Installed config own gone fresh report) : report.host.Sized := by
  obtain ⟨timer, signal, made, _⟩ := installed.host
  rw [made]
  exact .of_dispatcher rfl (Scheduler.new_sized installed.new _ _)

end Host

namespace Machine

variable {A : Actor → Option Nat → Prop} {m m' : Machine} {d : Dispatcher Control}

theorem Undisturbed.sized (kept : m.Undisturbed m') (sized : m.host.Sized) : m'.host.Sized := by
  intro d there
  exact sized d (kept.dispatcher ▸ there)

theorem Hosted.sized (hosted : Hosted A m d) (sized : m.host.Sized) : m.step.host.Sized := by
  obtain ⟨t, actor, slot, among, tenant, shape⟩ := hosted.current_slot
  have here := sized d hosted.dispatcher
  cases hosted.transition tenant shape with
  | own _ _ kept | quits _ kept => exact kept.sized sized
  | failed f parked reason eq =>
    rw [eq]
    exact sized
  | dispatched timer period asked parked table served programs live host =>
    rw [host]
    refine .of_dispatcher rfl ?_
    refine table.sized hosted.coherent hosted.runs hosted.peopled here ?_ fun _ _ => ⟨_, rfl, rfl⟩
    rintro program size map rfl
    exact (Control.asks_spawn asked).1
  | reaped control shape' eq =>
    rw [eq]
    exact .of_dispatcher rfl here
  | installed control user slot' report perm programs live host =>
    rw [host]
    exact report.sized
  | disposed signal _ control slot' programs live host =>
    rw [host]
    exact .of_nobody rfl
  | exited _ main programs ending host =>
    rw [host]
    exact Host.teardown_sized _ _
  | handedOver _ _ slot' _ threads _ _ parked _ _ host =>
    rw [host]
    refine .of_dispatcher rfl (here.keep fun i u spawned slot live => ?_)
    rw [Scheduler.withContext_slot, threads, List.getElem?_set_ne (Ne.symm spawned)] at slot
    obtain ⟨t, before, rfl⟩ := Option.map_eq_some_iff.mp slot
    refine ⟨t, before, ?_, ?_⟩
    · intro unused
      apply live
      split <;> exact unused
    · split <;> rfl

theorem Phase.sized (phase : m.Phase A) (sized : m.host.Sized) :
    m.step.host.owner = some otherThread ∨ m.step.host.Sized := by
  cases phase with
  | ended gone =>
    obtain ⟨e, ended⟩ := Option.isSome_iff_exists.mp gone
    rw [step_of_ended ended]
    exact .inr sized
  | foreign owner => exact .inl (step_owner owner)
  | bare bare =>
    cases bare.transition with
    | own kept | quits kept | left kept => exact .inr (kept.sized sized)
    | claimed foreign => exact .inl foreign
    | installed user report owner live host =>
      rw [host]
      exact .inr report.sized
  | hosted d hosted => exact .inr (hosted.sized sized)
  | handedOver d handed =>
    rw [handed.step_host]
    exact .inr (Host.teardown_sized _ _)
  | leaving live nobody leaving => exact .inr ((leaving.step live nobody).1.sized sized)

theorem Begins.sized (begins : Begins m) : m.host.Sized := by
  cases begins with
  | bare => exact .of_nobody rfl
  | hosted one fits started =>
    obtain ⟨config, fresh, event, _, new, rfl⟩ := standalone_eq one fits started
    exact .of_dispatcher rfl (Scheduler.new_sized new _ _)

theorem Begins.sized_run (begins : Begins m) (n : Nat)
    (home : (Machine.run n m).host.owner ≠ some otherThread) : (Machine.run n m).host.Sized :=
  begins.phase.keeps (I := fun m => m.host.Sized) begins.sized (fun _ => Phase.sized) n home

/-- Rounding gives the least whole number of pages, is monotone and idempotent, and fails if and only
if that number is no word. So a size that is set is whole, whatever was set before, and can be set
again without change; and in every state of a process, as after every spawn, the threads of a
dispatcher with such a size have that many bytes above their guards. -/
theorem stack_sizes_agree :
    (∀ bytes page, 0 < page → ∃ least, IsLeast (wholePages bytes page) least ∧
      roundToPages bytes page =
        if least ≤ wordMax then .ok least else .error (.fault .mulOverflow)) ∧
    (∀ page fewer more rounded, 0 < page → fewer ≤ more → roundToPages more page = .ok rounded →
      ∃ less, roundToPages fewer page = .ok less ∧ less ≤ rounded) ∧
    (∀ page bytes rounded, 0 < page → roundToPages bytes page = .ok rounded →
      roundToPages rounded page = .ok rounded) ∧
    ∀ bytes size, IsLeast {n | pageSize ∣ n ∧ max bytes minStackSize ≤ n} size → size ≤ wordMax →
      (∀ c : Config, c.withStackSize bytes = .ok { c with stackSize := size } ∧
        { c with stackSize := size }.withStackSize size = .ok { c with stackSize := size }) ∧
      (∀ (h : Host Control) d objections prime entry tid report, h.dispatcher = some d →
        d.config.stackSize = size → h.perform objections prime (.spawn entry) = .ok report →
        report.outcome = .returns (.tid tid) →
        ∃ d' t stack, report.host.dispatcher = some d' ∧ d'.config = d.config ∧
          d'.scheduler.threads[tid]? = some t ∧ t.stack = some stack ∧ stack.usable = size ∧
          stack.top - stack.bottom = size) ∧
      ∀ m, Begins m → ∀ n d, (run n m).host.owner ≠ some otherThread →
        (run n m).host.dispatcher = some d → d.config.stackSize = size →
        ∀ (tid : Tid) t, tid ≠ 0 → d.scheduler.threads[tid]? = some t → t.state ≠ .unused →
          ∃ stack, t.stack = some stack ∧ stack.usable = size ∧
            stack.top - stack.bottom = size := by
  refine ⟨fun bytes page positive => ?_, fun page fewer more rounded positive => ?_,
    fun page bytes rounded positive => roundToPages_idem positive, fun bytes size least inWord => ?_⟩
  · have least := wholePages_least bytes positive
    exact ⟨_, least, roundToPages_eq positive least⟩
  · exact roundToPages_mono positive
  · have asked : 0 < max bytes minStackSize := Nat.lt_of_lt_of_le (by decide) (Nat.le_max_right ..)
    rw [← wholePages_eq asked] at least
    have agree : ∀ {stack : Stack}, IsLeast (wholePages size pageSize) stack.usable →
        stack.usable = size := fun fewest => fewest.unique (wholePages_self least.1)
    refine ⟨fun c => ⟨?_, c.withStackSize_again least inWord⟩, ?_, ?_⟩
    · rw [c.withStackSize_eq least, if_pos inWord]
    · rintro h d objections prime entry tid report there rfl performed admitted
      obtain ⟨d', t, stack, there', same, slot, own, fewest⟩ :=
        Host.perform_spawn_stack there performed admitted
      exact ⟨d', t, stack, there', same, slot, own, agree fewest,
        stack.top_sub_bottom.trans (agree fewest)⟩
    · rintro m begins n d home there rfl tid t spawned slot live
      obtain ⟨stack, own, fewest⟩ :=
        begins.sized_run n home d there tid t spawned slot live
      exact ⟨stack, own, agree fewest, stack.top_sub_bottom.trans (agree fewest)⟩

def unevenMain : List Instr := [.call (.spawn (some 0)), .call (.spawn (some 0)), .fire]

def uneven : Machine :=
  match standalone 3 1000 (some 20000) none unevenMain [[]] with
  | .ok (.ok m) => m
  | _ => process [] []

/-- Twenty thousand bytes are five pages, when they are set, when the second thread is spawned and
while the first one runs. -/
theorem stack_sizes_agree_uneven :
    IsLeast {n | pageSize ∣ n ∧ max 20000 minStackSize ≤ n} 20480 ∧ 20480 ≤ wordMax ∧
      Config.withStackSize ⟨⟨7, by decide⟩, 65536⟩ 20000 = .ok ⟨⟨7, by decide⟩, 20480⟩ ∧
      (∃ d report d' t stack, (run 4 uneven).host.dispatcher = some d ∧ d.config.stackSize = 20480 ∧
        (run 4 uneven).host.perform .few primeControl (.spawn (some 0)) = .ok report ∧
        report.outcome = .returns (.tid 2) ∧ report.host.dispatcher = some d' ∧
        d'.scheduler.threads[2]? = some t ∧ t.stack = some stack ∧ stack.usable = 20480) ∧
      Begins uneven ∧ ∃ d t stack, (run 10 uneven).host.dispatcher = some d ∧
        d.config.stackSize = 20480 ∧ d.scheduler.threads[1]? = some t ∧ t.state = .running ∧
        t.stack = some stack ∧ stack.usable = 20480 ∧ stack.top - stack.bottom = 20480 := by
  have least : IsLeast {n | pageSize ∣ n ∧ max 20000 minStackSize ≤ n} 20480 := by
    refine ⟨⟨by decide, by decide⟩, ?_⟩
    rintro n ⟨⟨k, rfl⟩, enough⟩
    simp only [pageSize, minStackSize] at enough ⊢
    omega
  have started : standalone 3 1000 (some 20000) none unevenMain [[]] = .ok (.ok uneven) := rfl
  have begins : Begins uneven := .hosted (by decide) (by decide) started
  obtain ⟨_, _, _, sizes⟩ := stack_sizes_agree
  obtain ⟨sets, spawns, lives⟩ := sizes 20000 20480 least (by decide)
  refine ⟨least, by decide, (sets ⟨⟨7, by decide⟩, 65536⟩).1, ?_, begins, ?_⟩
  · obtain ⟨d, report, there, size, performed, admitted⟩ :
        ∃ d report, (run 4 uneven).host.dispatcher = some d ∧ d.config.stackSize = 20480 ∧
          (run 4 uneven).host.perform .few primeControl (.spawn (some 0)) = .ok report ∧
          report.outcome = .returns (.tid 2) := ⟨_, _, rfl, rfl, rfl, rfl⟩
    obtain ⟨d', t, stack, there', _, slot, own, whole, _⟩ :=
      spawns _ d .few primeControl (some 0) 2 report there size performed admitted
    exact ⟨d, report, d', t, stack, there, size, performed, admitted, there', slot, own, whole⟩
  · obtain ⟨d, t, there, size, slot, state⟩ :
        ∃ d t, (run 10 uneven).host.dispatcher = some d ∧ d.config.stackSize = 20480 ∧
          d.scheduler.threads[1]? = some t ∧ t.state = .running := ⟨_, _, rfl, rfl, rfl, rfl⟩
    obtain ⟨stack, own, whole, span⟩ :=
      lives uneven begins 10 d (by decide +kernel) there size 1 t (by decide) slot (by simp [state])
    exact ⟨d, t, stack, there, size, slot, state, own, whole, span⟩

end Machine

end RoundRobin
