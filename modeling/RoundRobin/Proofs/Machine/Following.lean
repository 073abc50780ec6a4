import RoundRobin.Proofs.Machine.Acts
import Mathlib.Data.List.Infix

/-!
# Programs and what is made of them

`Follows` says what it means that acts are what a program says, as far as they go: in order, none
skipped and none repeated, and the ending only after everything else. It knows nothing of machines.
What a thread has still to do of its program can be read off its control, its `plan`, and a step of
the thread's own takes the plan as far as its act says.

A program is regular if it leaves signals, other OS threads and fresh starts alone and neither fails
nor ends the dispatcher.
-/

namespace RoundRobin

/-- Instructions without others inside, after which the program goes on with the next one. -/
def Instr.isPlain : Instr → Bool
  | .loop .. | .whileAlive .. | .masked _ | .stop => false
  | _ => true

mutual

def Instr.isRegular : Instr → Bool
  | .call (.init ..) | .foreign _ | .raise | .raiseElsewhere | .fail | .close => false
  | .loop _ body | .whileAlive _ body | .masked body => areRegular body
  | _ => true

def areRegular : List Instr → Bool
  | [] => true
  | i :: is => i.isRegular && areRegular is

end

/-- What is left of a program changes, without an act. -/
inductive Unfolds : Control → Control → Prop where
  | spent (rest : Control) : Unfolds (.run [] :: rest) rest
  | last (body : List Instr) (rest : Control) : Unfolds (.loop 0 body :: rest) rest
  | round (times : Nat) (body : List Instr) (rest : Control) :
      Unfolds (.loop (times + 1) body :: rest) (.run body :: .loop times body :: rest)
  | enough (tid : Tid) (body : List Instr) (rest : Control) :
      Unfolds (.whileAlive 0 tid body :: rest) rest

/-- What an act leaves of a program. -/
inductive Performs : Control → Act → Control → Prop where
  | plain {i : Instr} (plain : i.isPlain) (is : List Instr) (rest : Control) :
      Performs (.run (i :: is) :: rest) (.instr i) (.run is :: rest)
  | loop (times : Nat) (body is : List Instr) (rest : Control) :
      Performs (.run (.loop times body :: is) :: rest) (.instr (.loop times body))
        (.loop times body :: .run is :: rest)
  | whileAlive {t : Target} {tid : Tid} (meant : ∀ n, t = .tid n → tid = n) (body is : List Instr)
      (rest : Control) :
      Performs (.run (.whileAlive t body :: is) :: rest) (.instr (.whileAlive t body))
        (.whileAlive aliveRounds tid body :: .run is :: rest)
  | masked (body is : List Instr) (rest : Control) :
      Performs (.run (.masked body :: is) :: rest) (.instr (.masked body))
        (.run body :: .run is :: rest)
  | stop (is : List Instr) (rest : Control) :
      Performs (.run (.stop :: is) :: rest) (.instr .stop) []
  | alive (left : Nat) (tid : Tid) (body : List Instr) (rest : Control) :
      Performs (.whileAlive (left + 1) tid body :: rest) (.probe tid true)
        (.run body :: .whileAlive left tid body :: rest)
  | gone (left : Nat) (tid : Tid) (body : List Instr) (rest : Control) :
      Performs (.whileAlive (left + 1) tid body :: rest) (.probe tid false) rest

/-- The acts are what `program` says, as far as they go, and this is left of it. Nothing is left,
not even the ending, once the ending is among them. -/
inductive Follows (program : List Instr) : List Act → Option Control → Prop where
  | begin : Follows program [] (some [.run program])
  | unfold {acts : List Act} {c c' : Control} (follows : Follows program acts (some c))
      (unfolds : Unfolds c c') : Follows program acts (some c')
  | perform {acts : List Act} {a : Act} {c c' : Control} (follows : Follows program acts (some c))
      (performs : Performs c a c') : Follows program (acts ++ [a]) (some c')
  | ending {acts : List Act} (follows : Follows program acts (some [])) :
      Follows program (acts ++ [.ending]) none

def Frame.plan (program : List Instr) : Frame → Control
  | .run todo => [.run todo]
  | .loop times body => [.loop times body]
  | .whileAlive left tid body => [.whileAlive left tid body]
  | .start .. | .fetch .. => [.run program]
  | _ => []

def Frame.isRegular : Frame → Bool
  | .run program => areRegular program
  | .loop _ body | .whileAlive _ _ body => areRegular body
  | .perform (.install _) _ _ | .abort _ | .fault _ | .closed => false
  | _ => true

namespace Control

def isRegular (c : Control) : Bool := c.all Frame.isRegular

/-- What a thread has still to do of its program; none, if it is about to end. -/
def plan (program : List Instr) : Control → Option Control
  | .perform _ _ .returning :: _ => none
  | c => some (c.flatMap (Frame.plan program))

end Control

variable {actor : Actor} {c : Control} {program : List Instr}

theorem Calm.plan_eq (calm : Calm actor c) :
    c.plan program = some (c.flatMap (Frame.plan program)) := by
  unfold Control.plan
  split
  · exact absurd calm.outside (by simp [Control.inKernel])
  · rfl

theorem isRegular_tail {frame : Frame} (regular : Control.isRegular (frame :: c)) : c.isRegular :=
  (Bool.and_eq_true_iff.mp regular).2

theorem isRegular_filter (keep : Frame → Bool) (regular : c.isRegular) :
    Control.isRegular (c.filter keep) := by
  simp only [Control.isRegular, List.all_eq_true, List.mem_filter] at regular ⊢
  exact fun frame member => regular frame member.1

/-- A program that returns early leaves nothing to be done. -/
theorem plan_filter (c : Control) :
    (c.filter Frame.outlivesReturn).flatMap (Frame.plan program) = [] := by
  rw [List.flatMap_eq_nil_iff]
  intro frame member
  have outlives := (List.mem_filter.mp member).2
  cases frame <;> first | rfl | simp [Frame.outlivesReturn] at outlives

/-- The library's work for a thread is no part of its program. -/
theorem Control.Served.plan_eq {c' : Control} (served : c.Served c') :
    c'.plan program = c.plan program ∧ (c.isRegular → c'.isRegular) := by
  cases served with
  | answered | suspended | preempted =>
    exact ⟨rfl, by simp +contextual [Control.isRegular, Frame.isRegular]⟩

/-- A fresh thread comes to its own program. -/
theorem Control.Advances.plan_eq {programs : List (List Instr)} {entry : Option Nat} {c' : Control}
    (advances : c.Advances programs entry c')
    (own : ∀ e, entry = some e → program = (programs[e]?).getD [] ∧ areRegular program)
    (spawned : ∀ generation base guard, c = [.fetch generation base guard] → entry.isSome) :
    c'.plan program = c.plan program ∧ (c.isRegular → c'.isRegular) := by
  cases advances with
  | served served => exact served.plan_eq
  | start => exact ⟨rfl, fun _ => rfl⟩
  | fetch generation base guard =>
    obtain ⟨e, rfl⟩ := Option.isSome_iff_exists.mp (spawned generation base guard rfl)
    obtain ⟨rfl, regular⟩ := own e rfl
    exact ⟨rfl, fun _ => by simpa [Control.isRegular, Frame.isRegular] using regular⟩

/-- A call that does not start over is answered, or admitted as a request that does not. -/
theorem Host.examine_ordinary {κ : Type} (h : Host κ) (caller : OsThread) {call : Call Tid}
    (ordinary : ∀ micros stackSize, call ≠ .init micros stackSize) :
    (∃ a, h.examine caller call = .ok (.answer a, h)) ∨
      ∃ r, h.examine caller call = .ok (.request r, h) ∧ ∀ config, r ≠ .install config := by
  have through : ∀ r, (∀ config, r ≠ .install config) →
      h.examine caller call = .ok (h.letThrough caller r) →
      (∃ a, h.examine caller call = .ok (.answer a, h)) ∨
        ∃ r, h.examine caller call = .ok (.request r, h) ∧ ∀ config, r ≠ .install config := by
    intro r stays examined
    rw [examined, letThrough]
    split
    · exact .inl ⟨_, rfl⟩
    · exact .inr ⟨r, rfl, stays⟩
  cases call with
  | init micros stackSize => exact absurd rfl (ordinary micros stackSize)
  | current | total => exact .inl ⟨_, rfl⟩
  | _ => exact through _ (by simp) rfl

namespace Machine

variable {m m' : Machine} {d : Dispatcher Control}

/-- A step of a thread's own: what is left of its program afterwards is what its act leaves. -/
structure Goes (program : List Instr) (m m' : Machine) : Prop where
  live : m'.ending = none
  quiet : m'.host.signal.pending = false
  regular : m'.control.isRegular
  follows : ∀ acts, Follows program acts (m.control.plan program) →
    Follows program (acts ++ m.act.toList) (m'.control.plan program)

theorem still_of_quiet (quiet : m.host.signal.pending = false) :
    m.host.signal.isDeliverable = false := by
  simp [Signal.isDeliverable, quiet]

/-- Work that is not an act leaves the plan as it is, or unfolds it. -/
theorem Goes.silent {left left' : Control} (act : m.act = none) (live : m'.ending = none)
    (quiet : m'.host.signal.pending = false) (regular : m'.control.isRegular)
    (before : m.control.plan program = some left) (after : m'.control.plan program = some left')
    (unfolds : left' = left ∨ Unfolds left left') : Goes program m m' where
  live := live
  quiet := quiet
  regular := regular
  follows := fun acts follows => by
    rw [act, Option.toList_none, List.append_nil, after]
    rw [before] at follows
    rcases unfolds with rfl | unfolds
    · exact follows
    · exact .unfold follows unfolds

theorem Goes.acts {a : Act} (act : m.act = some a) (live : m'.ending = none)
    (quiet : m'.host.signal.pending = false) (regular : m'.control.isRegular)
    (plan : ∀ acts, Follows program acts (m.control.plan program) →
      Follows program (acts ++ [a]) (m'.control.plan program)) : Goes program m m' where
  live := live
  quiet := quiet
  regular := regular
  follows := by
    rw [act]
    exact plan

/-- One instruction of a regular program. -/
theorem goes_execute {i : Instr} {is : List Instr} {rest : Control} (live : m.ending = none)
    (quiet : m.host.signal.pending = false) (control : m.control = .run (i :: is) :: rest)
    (user : User actor rest) (regular : m.control.isRegular) :
    Goes program m (m.execute (.run is :: rest) i) := by
  have act : m.act = some (.instr i) := by
    simp [Machine.act, live, still_of_quiet quiet, control]
  have plan : m.control.plan program =
      some (.run (i :: is) :: rest.flatMap (Frame.plan program)) := by
    rw [control]
    rfl
  obtain ⟨own, rest_regular⟩ : i.isRegular ∧ Control.isRegular (.run is :: rest) := by
    rw [control] at regular
    simpa [Control.isRegular, Frame.isRegular, areRegular, and_assoc] using regular
  -- what is put on top of the rest is no part of the program
  have noted : ∀ {m' : Machine} (above : Control), m'.ending = none →
      m'.host.signal.pending = false →
      m'.control = above ++ .run is :: rest → above.isRegular →
      m'.control.plan program = some ((above ++ .run is :: rest).flatMap (Frame.plan program)) →
      above.flatMap (Frame.plan program) = [] → i.isPlain → Goes program m m' := by
    intro m' above live quiet control' above_regular plan' nothing plain
    refine .acts act live quiet ?_ fun acts follows => ?_
    · rw [control', Control.isRegular, List.all_append, Bool.and_eq_true]
      exact ⟨above_regular, rest_regular⟩
    · rw [plan', List.flatMap_append, nothing]
      rw [plan] at follows
      exact .perform follows (.plain plain is _)
  cases i with
  | call c =>
    have ordinary : ∀ micros stackSize, c.map m.resolve ≠ .init micros stackSize := by
      cases c <;> simp [Call.map, Instr.isRegular] at own ⊢
    simp only [execute, Machine.call]
    rcases m.host.examine_ordinary homeThread ordinary with ⟨a, examined⟩ | ⟨r, examined, stays⟩
    · rw [examined]
      exact noted [.note _ _] live quiet rfl rfl rfl rfl rfl
    · rw [examined]
      refine noted [.perform r _ (.program c.deed)] live quiet rfl ?_ rfl rfl rfl
      cases r <;> first | rfl | exact absurd rfl (stays _)
  | fire =>
    simp only [execute, Machine.fire]
    split
    · split
      · exact noted [.preempt _, .note _ _] live quiet rfl rfl rfl rfl rfl
      · exact noted [.note _ _] live quiet rfl rfl rfl rfl rfl
    · exact noted [.note _ _] live quiet rfl rfl rfl rfl rfl
  | foreign _ | raise | raiseElsewhere | fail | close => simp [Instr.isRegular] at own
  | readTimer | readSignal | readConfig => exact noted [.note _ _] live quiet rfl rfl rfl rfl rfl
  | loop times body =>
    refine .acts act live quiet ?_ fun acts follows => ?_
    · exact Bool.and_eq_true_iff.mpr ⟨own, rest_regular⟩
    · rw [plan] at follows
      exact .perform follows (.loop times body is _)
  | whileAlive t body =>
    refine .acts act live quiet ?_ fun acts follows => ?_
    · exact Bool.and_eq_true_iff.mpr ⟨own, rest_regular⟩
    · rw [plan] at follows
      refine .perform follows (.whileAlive ?_ body is _)
      rintro n rfl
      rfl
  | masked body =>
    refine .acts act live quiet ?_ fun acts follows => ?_
    · exact Bool.and_eq_true_iff.mpr ⟨own, rest_regular⟩
    · rw [plan] at follows
      exact .perform follows (.masked body is _)
  | stop =>
    refine .acts act live quiet (isRegular_filter _ rest_regular) fun acts follows => ?_
    rw [plan] at follows
    have left : Calm actor ((.run is :: rest : Control).filter Frame.outlivesReturn) :=
      .user (User.run is user).filter
    simp only [execute]
    rw [left.plan_eq, plan_filter]
    exact .perform follows (.stop is _)

/-- A thread that is calm goes on with its program, or its program is over and so is the process. -/
theorem goes (calm : Calm actor m.control) (live : m.ending = none)
    (quiet : m.host.signal.pending = false) (regular : m.control.isRegular)
    (dispatcher : m.host.dispatcher = some d)
    (place : ∀ generation base, actor = .spawned generation base → generation = d.generation) :
    (m.act = none ∧ m.step.ending = some .done) ∨ Goes program m m.step := by
  have still := still_of_quiet quiet
  have before : ∀ {frame : Frame} {rest : Control}, m.control = frame :: rest →
      m.control.plan program = some (frame.plan program ++ rest.flatMap (Frame.plan program)) := by
    intro frame rest control
    rw [calm.plan_eq, control, List.flatMap_cons]
  have below : ∀ {frame : Frame} {rest : Control}, m.control = frame :: rest → rest.isRegular := by
    intro frame rest control
    rw [control] at regular
    exact isRegular_tail regular
  -- a frame that is worked off without an act
  have passed : ∀ {frame : Frame} {rest : Control} {m' : Machine}, m.control = frame :: rest →
      m.act = none → Calm actor rest → m'.control = rest → m'.ending = none →
      m'.host.signal.pending = false →
      (frame.plan program = [] ∨ ∀ left, Unfolds (frame.plan program ++ left) left) →
      Goes program m m' := by
    intro frame rest m' control act calm control' live' quiet' nothing
    have after : m'.control.plan program = some (rest.flatMap (Frame.plan program)) := by
      rw [control', calm.plan_eq]
    refine .silent act live' quiet' (control' ▸ below control) (before control) after ?_
    rcases nothing with nothing | unfolds
    · exact .inl (by rw [nothing, List.nil_append])
    · exact .inr (unfolds _)
  generalize control : m.control = c at calm
  cases calm with
  | user user =>
    cases user with
    | run todo user =>
      rw [step_of_frame live still control]
      cases todo with
      | nil =>
        exact .inr (passed control (by simp [act, live, still, control]) (.user user) rfl live quiet
          (.inr .spent))
      | cons i is => exact .inr (goes_execute live quiet control user regular)
    | loop times body user =>
      rw [step_of_frame live still control]
      have silent : m.act = none := by simp [act, live, still, control]
      cases times with
      | zero => exact .inr (passed control silent (.user user) rfl live quiet (.inr (.last body)))
      | succ times =>
        rw [control] at regular
        obtain ⟨own, rest_regular⟩ := Bool.and_eq_true_iff.mp regular
        refine .inr (.silent silent live quiet ?_ (before control) rfl (.inr (.round times body _)))
        exact Bool.and_eq_true_iff.mpr ⟨own, regular⟩
    | whileAlive left other body user =>
      rw [step_of_frame live still control]
      cases left with
      | zero =>
        exact .inr (passed control (by simp [act, live, still, control]) (.user user) rfl live quiet
          (.inr (.enough other body)))
      | succ left =>
        have probe : m.act = some (.probe other (m.isAlive other)) := by
          simp [act, live, still, control]
        have plan := before control
        rw [control] at regular
        obtain ⟨own, rest_regular⟩ := Bool.and_eq_true_iff.mp regular
        simp only [work]
        split
        · next alive =>
          rw [alive] at probe
          refine .inr (.acts probe live quiet ?_ fun acts follows => ?_)
          · exact Bool.and_eq_true_iff.mpr ⟨own, regular⟩
          · rw [plan] at follows
            exact .perform follows (.alive left other body _)
        · next dead =>
          rw [Bool.eq_false_iff.mpr dead] at probe
          refine .inr (.acts probe live quiet rest_regular fun acts follows => ?_)
          rw [plan] at follows
          rw [(Calm.user user).plan_eq]
          exact .perform follows (.gone left other body _)
    | note did result user =>
      rw [step_of_frame live still control]
      exact .inr (passed control (by simp [act, live, still, control]) (.user user) rfl live quiet
        (.inl rfl))
    | restore guard user =>
      rw [step_of_frame live still control]
      exact .inr (passed control (by simp [act, live, still, control]) (.user user) rfl live quiet
        (.inl rfl))
    | returned own =>
      rw [step_of_frame live still control]
      exact .inr (.silent (by simp [act, live, still, control]) live quiet rfl (before control) rfl
        (.inl rfl))
    | close own =>
      rw [step_of_frame live still control]
      exact .inr (.silent (by simp [act, live, still, control]) live quiet rfl (before control) rfl
        (.inl rfl))
    | quit own =>
      rw [step_of_frame live still control]
      exact .inl ⟨by simp [act, live, still, control], rfl⟩
  | restore guard calm =>
    rw [step_of_frame live still control]
    exact .inr (passed control (by simp [act, live, still, control]) calm rfl live quiet (.inl rfl))
  | unmask calm =>
    rw [step_of_frame live still control]
    exact .inr (passed control (by simp [act, live, still, control]) calm rfl live quiet (.inl rfl))
  | finish own =>
    have same := place _ _ own
    rw [step_of_frame live still control]
    simp only [work, finishThread, dispatcher, same, if_true]
    have last : m.act = some .ending := by simp [act, live, still, control]
    refine .inr (.acts last live quiet rfl fun acts follows => ?_)
    rw [before control] at follows
    exact .ending follows
  | failed | faulted _ | closed _ =>
    rw [control] at regular
    simp [Control.isRegular, Frame.isRegular] at regular

end Machine

end RoundRobin
