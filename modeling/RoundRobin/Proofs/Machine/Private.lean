import RoundRobin.Proofs.Machine.Asking
import RoundRobin.Proofs.Machine.Chronicle
import RoundRobin.Proofs.Machine.Strides

/-!
# A dispatcher of one's own

A process may begin with a dispatcher and a manual timer of its own. If no program starts over, it
has no other dispatcher, and signals are none of its business: one that gets through kills the
process. As long as the programs have something to say, each step is one of three things: the
running thread goes on by itself, the scheduler does what it was asked for, or a stack is given
back. After anything else the programs are over.
-/

namespace RoundRobin

mutual

/-- Whether an instruction, with all inside it, never starts over. -/
def Instr.isLocal : Instr → Bool
  | .call (.init ..) => false
  | .loop _ body | .whileAlive _ body | .masked body => areLocal body
  | _ => true

def areLocal : List Instr → Bool
  | [] => true
  | i :: is => i.isLocal && areLocal is

end

def Frame.isLocal : Frame → Bool
  | .run program => areLocal program
  | .loop _ body | .whileAlive _ _ body => areLocal body
  | .perform (.install _) _ _ => false
  | _ => true

def Control.isLocal (c : Control) : Bool := c.all Frame.isLocal

/-- What is left of a program that has failed: sections to leave, and the end. -/
inductive Doomed : Control → Prop where
  | restore {rest : Control} (guard : Guard) (doomed : Doomed rest) :
      Doomed (.restore guard :: rest)
  | failed : Doomed [.abort .entryFailed]
  | faulted (f : Fault) : Doomed [.fault f]

variable {c c' : Control}

theorem doomed_unwind {last : Frame} (failure : last.isFailure) (c : Control) :
    Doomed (unwind last c) := by
  induction c with
  | nil =>
    unfold Frame.isFailure at failure
    split at failure
    · exact .failed
    · exact .faulted _
    · simp at failure
  | cons frame rest ih =>
    cases frame <;> first | exact .failed | exact ih | exact .restore _ ih

theorem Doomed.isLocal (doomed : Doomed c) : c.isLocal := by
  induction doomed with
  | restore _ _ ih => exact ih
  | failed | faulted => rfl

theorem isLocal_tail {frame : Frame} (here : Control.isLocal (frame :: c)) : c.isLocal :=
  (Bool.and_eq_true_iff.mp here).2

theorem Control.Served.isLocal (served : c.Served c') (here : c.isLocal) : c'.isLocal := by
  cases served with
  | answered | suspended | preempted => exact isLocal_tail here

theorem Control.Advances.isLocal {programs : List (List Instr)} {entry : Option Nat}
    (advances : c.Advances programs entry c') (code : ∀ program ∈ programs, areLocal program)
    (here : c.isLocal) : c'.isLocal := by
  cases advances with
  | served served => exact served.isLocal here
  | start => rfl
  | fetch generation base guard =>
    cases entry with
    | none => rfl
    | some e =>
      have body : areLocal ((programs[e]?).getD []) := by
        cases found : programs[e]? with
        | none => rfl
        | some program => exact code program (List.mem_of_getElem? found)
      simpa [Control.isLocal, Frame.isLocal] using body

namespace Machine

variable {A : Actor → Option Nat → Prop} {m m' : Machine} {d d' : Dispatcher Control}

theorem Stride.isLocal {b : Bool} (stride : Stride m c b c') (here : c.isLocal) : c'.isLocal := by
  cases stride with
  | drops | restores | unmasks => exact isLocal_tail here
  | round | again | loops | probes | forwards | masks | reports | returns =>
    simp_all [Control.isLocal, Frame.isLocal, areLocal, Instr.isLocal]
  | stops =>
    simp only [Control.isLocal, List.all_eq_true, List.mem_filter, List.mem_cons] at here ⊢
    rintro frame ⟨rfl | there, outlives⟩
    · simp [Frame.outlivesReturn] at outlives
    · exact here frame (.inr there)
  | fails failure => exact (doomed_unwind failure _).isLocal
  | ignored => exact here
  | enters entry =>
    cases entry with
    | @asks call r host passed is rest =>
      have ordinary : ∀ micros stackSize, call.map m.resolve ≠ .init micros stackSize := by
        intro micros stackSize starts
        cases call <;> simp_all [Call.map, Control.isLocal, Frame.isLocal, areLocal, Instr.isLocal]
      have stays : ∀ config, r ≠ .install config := by
        rcases m.host.examine_ordinary homeThread ordinary with ⟨a, answered⟩ | ⟨r', asks, stays⟩
        · simp [answered] at passed
        · rw [asks] at passed
          cases passed
          exact stays
      cases r <;> simp_all [Control.isLocal, Frame.isLocal, areLocal]
    | fires | closes | ends | leaves | interrupted =>
      simp_all [Control.isLocal, Frame.isLocal, areLocal]

/-- The programs have nothing more to say: the process has ended, or all that is left to do leads
there. -/
inductive Over (m : Machine) : Prop where
  | ended (gone : m.ending.isSome)
  | doomed (live : m.ending = none) (deadly : m.host.signal.disposition = .default)
      (doomed : Doomed m.control)
  | handedOver (d : Dispatcher Control) (handed : HandedOver m d)
  | leaving (live : m.ending = none) (nobody : m.host.dispatcher = none)
      (leaving : Leaving m.control)

theorem Over.silent (finished : m.Over) : m.act = none := by
  cases finished with
  | ended gone =>
    obtain ⟨e, ended⟩ := Option.isSome_iff_exists.mp gone
    simp [act, ended]
  | doomed _ _ doomed =>
    cases acts : m.act with
    | none => rfl
    | some a =>
      obtain ⟨_, _, ⟨i, is, rest, control, _⟩ | ⟨left, tid, body, rest, control, _⟩ |
        ⟨generation, base, rest, control, _⟩⟩ := act_cases acts <;> rw [control] at doomed <;>
        cases doomed
  | handedOver d handed => exact handed.silent
  | leaving _ _ leaving => exact leaving.silent

theorem Over.step (finished : m.Over) : m.step.Over := by
  cases finished with
  | ended gone =>
    obtain ⟨e, ended⟩ := Option.isSome_iff_exists.mp gone
    rw [step_of_ended ended]
    exact .ended gone
  | doomed live deadly doomed =>
    cases waits : m.host.signal.isDeliverable with
    | true =>
      refine .ended ?_
      simp [Machine.step, live, waits, deliver, Signal.deliver, deadly, finish]
    | false =>
      generalize control : m.control = c at doomed
      cases doomed with
      | restore guard doomed =>
        rw [step_of_frame live waits control]
        exact .doomed live deadly doomed
      | failed | faulted =>
        rw [step_of_frame live waits control]
        exact .ended rfl
  | handedOver d handed => exact .ended (by rw [handed.step.1]; rfl)
  | leaving live nobody leaving =>
    obtain ⟨kept, gone | ⟨live, leaving⟩⟩ := leaving.step live nobody
    · exact .ended gone
    · exact .leaving live (kept.dispatcher.trans nobody) leaving

theorem Over.run (finished : m.Over) (n : Nat) : (run n m).Over := by
  induction n with
  | zero => exact finished
  | succ n ih =>
    rw [run_step]
    exact ih.step

/-- The dispatcher is the only one that there ever was, and no program starts over. -/
structure Private (m : Machine) (d : Dispatcher Control) : Prop where
  first : d.generation = 0
  manual : ∃ t, d.timer = .manual t ∧ t.isArmed
  deadly : m.host.signal.disposition = .default
  code : ∀ program ∈ m.programs, areLocal program
  residents : d.scheduler.Peopled (fun _ r => r.work.isLocal) (fun c => c.awaits) m.control

/-- What a step does while the programs of a private dispatcher have something to say. -/
inductive Progress (m : Machine) (d : Dispatcher Control) (m' : Machine) :
    Dispatcher Control → Prop where
  | own (how : (∃ actor, Calm actor m.control ∧ Stride m m.control m'.masked m'.control) ∨
        m.control.Advances m.programs (d.scheduler.entryOf d.scheduler.current) m'.control)
      (idle : m.control.asks d.config.stackSize m.mapping = none)
      (kept : m.Undisturbed m') : Progress m d m' d
  | dispatched {op : Scheduler.Op} {back : Control} {given freed : Option Stack}
      {s : Scheduler Control} {timer : Timer} {period : Nat}
      (done : m.Dispatched d op back given freed s timer period m') :
      Progress m d m' { d.publish s with timer }
  | reaped (control : m.control = .reap :: m'.control)
      (unmapped : m'.host.unmapped = d.scheduler.parked.toList ++ m.host.unmapped) :
      Progress m d m' { d with scheduler := { d.scheduler with parked := none } }

theorem Private.current (own : Private m d) (hosted : Hosted A m d) : m.control.isLocal := by
  obtain ⟨t, _, _, here⟩ := own.residents.current hosted.runs
  exact here

/-- The scheduler has done what was asked of it. -/
theorem Private.dispatched (own : Private m d) (hosted : Hosted A m d) {op : Scheduler.Op}
    {back : Control} {given freed : Option Stack} {s : Scheduler Control} {timer : Timer}
    {period : Nat} (done : m.Dispatched d op back given freed s timer period m') :
    Hosted A m' { d.publish s with timer } ∧ Private m' { d.publish s with timer } := by
  obtain ⟨t, actor, slot, among, tenant, shape⟩ := hosted.current_slot
  refine ⟨hosted.next_dispatched slot among tenant shape done.asked done.parked done.table
    done.served done.live done.host, own.first, ?_, by rw [done.host]; exact own.deadly,
    done.programs ▸ own.code, ?_⟩
  · obtain ⟨t, manual, armed⟩ := own.manual
    rcases done.clock with ⟨_, _, restarted⟩ | ⟨_, rfl, _⟩
    · rw [manual] at restarted
      cases restarted with
      | manual => exact ⟨_, rfl, armed⟩
    · exact ⟨t, manual, armed⟩
  · refine done.table.peopled hosted.coherent hosted.runs own.residents (fun _ _ _ holds => holds)
      ?_ ?_
    · intro stays _ _
      exact (done.served stays).isLocal (own.current hosted)
    · intro i program size map stack _ _ _
      exact ⟨_, rfl, rfl, rfl⟩

/-- The programs go on with the one dispatcher, or have nothing more to say. -/
theorem Private.step (own : Private m d) (hosted : Hosted A m d) :
    m.step.Over ∨ ∃ d', Hosted A m.step d' ∧ Private m.step d' ∧ m.Progress d m.step d' := by
  obtain ⟨t, actor, slot, among, tenant, shape⟩ := hosted.current_slot
  have here := own.current hosted
  cases hosted.transition tenant shape with
  | own how idle kept live shape' waits masked =>
    have next := hosted.next_own slot among tenant kept live shape' (hosted.parked.imp_right waits)
      masked
    have goesOn : (∃ actor, Calm actor m.control ∧
          Stride m m.control m.step.masked m.step.control) ∨
        m.control.Advances m.programs (d.scheduler.entryOf d.scheduler.current) m.step.control := by
      rcases how with calm | ⟨_, advances⟩
      · rcases strides hosted.live calm.outside hosted.home live with foreign | stride
        · exact absurd foreign next.home
        · exact .inl ⟨actor, calm, stride⟩
      · exact .inr advances
    have stays : m.step.control.isLocal := by
      rcases goesOn with ⟨_, _, stride⟩ | advances
      · exact stride.isLocal here
      · exact advances.isLocal own.code here
    obtain ⟨gate, pending, forwarded, signal⟩ := kept.signal
    refine .inr ⟨d, next, ⟨own.first, own.manual, by rw [signal]; exact own.deadly,
      kept.programs ▸ own.code, ?_⟩, .own goesOn idle kept⟩
    exact own.residents.becomes (fun _ _ _ holds => holds) fun _ _ _ => stays
  | quits _ _ ended => exact .inl (.ended ended)
  | failed f _ _ eq =>
    -- No handler is set for a manual timer's signal, so nothing can take up the programs again.
    rw [eq]
    exact .inl (.doomed hosted.live own.deadly (doomed_unwind rfl _))
  | dispatched timer period asked parked table served programs live host clock =>
    have done : m.Dispatched d _ _ _ _ _ timer period m.step :=
      ⟨asked, parked, table, served, programs, live, host, clock⟩
    obtain ⟨next, own'⟩ := own.dispatched hosted done
    exact .inr ⟨_, next, own', .dispatched done⟩
  | @reaped rest control shape' eq =>
    have next := hosted.next_reaped slot among tenant control shape' eq
    refine .inr ⟨_, next, ⟨own.first, own.manual, by rw [eq]; exact own.deadly,
      by rw [eq]; exact own.code, ?_⟩, .reaped (by rw [control, eq]) (by rw [eq])⟩
    refine own.residents.becomes (fun _ _ _ holds => holds) fun _ _ _ => ?_
    rw [control] at here
    rw [eq]
    exact isLocal_tail here
  | installed control =>
    rw [control] at here
    simp [Control.isLocal, Frame.isLocal] at here
  | disposed _ _ control _ _ live host control' =>
    rw [control] at shape
    exact .inl (.leaving live (by rw [host]) (control' ▸ Shape.leaving shape))
  | exited _ _ _ ending => exact .inl (.ended (by rw [ending]; rfl))
  | handedOver kernel spawned at_main stored _ current shutdown _ _ live host =>
    exact .inl (.handedOver _
      (hosted.next_handedOver kernel spawned at_main stored current shutdown live host))

/-- A process that begins with a dispatcher of its own. -/
theorem opened_private {capacity : Nat} {fresh : Scheduler Control}
    (new : Scheduler.new capacity = .ok fresh) (config : Config) (event : Event)
    {main : List Instr} {programs : List (List Instr)} {system : System} (here : areLocal main)
    (code : ∀ program ∈ programs, areLocal program) :
    Private (opened fresh config event main programs system) (firstDispatcher fresh config) where
  first := rfl
  manual := ⟨_, rfl, rfl⟩
  deadly := rfl
  code := code
  residents := Scheduler.new_peopled new none (by
    simpa [opened, Control.isLocal, Frame.isLocal] using here)

/-- What each step keeps while the programs have something to say, a run keeps. -/
theorem Private.run {I : Nat → Dispatcher Control → Prop} (own : Private m d)
    (hosted : Hosted A m d) (holds : I 0 d)
    (goes : ∀ n d d', Hosted A (run n m) d → Private (run n m) d → I n d →
      Hosted A (run n m).step d' → (run n m).Progress d (run n m).step d' → I (n + 1) d')
    (n : Nat) :
    (Machine.run n m).Over ∨
      ∃ d, Hosted A (Machine.run n m) d ∧ Private (Machine.run n m) d ∧ I n d := by
  induction n with
  | zero => exact .inr ⟨d, hosted, own, holds⟩
  | succ n ih =>
    rw [run_step]
    rcases ih with gone | ⟨d, hosted, own, holds⟩
    · exact .inl gone.step
    · rcases own.step hosted with gone | ⟨d', next, own', progress⟩
      · exact .inl gone
      · exact .inr ⟨d', next, own', goes n d d' hosted own holds next progress⟩

end Machine

end RoundRobin
