import RoundRobin.Proofs.Machine.Phases
import RoundRobin.Proofs.Machine.Strides

/-!
# Critical sections

There is one mask for the whole process, and every thread sets it and puts it back. What a thread
has still to do tells whether preemption is held off while that thread runs: it is as long as there
is a section to be left, or work of the library's own to be done. `Nested` says that each section
puts back what held before it, as far as the control of its own thread can tell. All threads keep
to that, so whoever runs finds the mask as it left it.
-/

namespace RoundRobin

/-- Frames that hold preemption off until they are done with. -/
def Frame.holds : Frame → Bool
  | .restore _ | .unmask | .perform .. | .preempt _ | .reap | .start .. | .fetch .. | .dispose _ =>
    true
  | _ => false

/-- Frames that hold nothing off, or leave a section behind when a failure passes through. -/
def Frame.isSteady : Frame → Bool
  | .unmask | .reap | .start .. | .fetch .. => false
  | _ => true

namespace Control

def held (c : Control) : Bool := c.any Frame.holds

def steady (c : Control) : Bool := c.all Frame.isSteady

end Control

/-- Whether a frame puts back the mask that goes with the `rest`. -/
def Frame.Fits (rest : Control) : Frame → Prop
  | .restore guard | .dispose guard => guard.saved = rest.held
  | .perform _ guard _ | .preempt guard => guard.saved = rest.held ∧ rest.steady
  | .fetch _ _ guard => guard.saved = true
  | .reap => rest.held = true
  | .unmask | .returned .. => rest.held = false
  | _ => True

/-- Every section puts back what held before it. -/
def Control.Nested : Control → Prop
  | [] => True
  | frame :: rest => frame.Fits rest ∧ Nested rest

variable {actor : Actor} {c c' rest : Control} {frame : Frame}

@[simp]
theorem Control.held_cons : Control.held (frame :: rest) = (frame.holds || rest.held) := rfl

@[simp]
theorem Control.steady_cons : Control.steady (frame :: rest) = (frame.isSteady && rest.steady) :=
  rfl

@[simp]
theorem Control.nested_cons : Control.Nested (frame :: rest) ↔ frame.Fits rest ∧ rest.Nested :=
  Iff.rfl

theorem Control.held_of_inKernel (kernel : c.inKernel) : c.held := by
  unfold Control.inKernel at kernel
  split at kernel
  · rfl
  · rfl
  · rfl
  · rfl
  · rfl
  · rfl
  · simp at kernel

theorem User.steady (user : User actor c) : c.steady := by
  induction user with
  | run _ _ ih | loop _ _ _ ih | whileAlive _ _ _ _ ih | note _ _ _ ih | restore _ _ ih => exact ih
  | returned | close | quit => rfl

theorem Control.steady_of_clear (clear : c.held = false) : c.steady := by
  induction c with
  | nil => rfl
  | cons frame rest ih =>
    simp only [Control.held_cons, Bool.or_eq_false_iff] at clear
    rw [Control.steady_cons, ih clear.2, Bool.and_true]
    cases frame with
    | unmask | reap | start | fetch => simp [Frame.holds] at clear
    | _ => rfl

/-- A failure leaves the sections that it passes through, and the mask as they found it. -/
theorem unwind_nested {last : Frame} (failure : last.isFailure) (steady : c.steady)
    (nested : c.Nested) : (unwind last c).Nested ∧ (unwind last c).held = c.held := by
  induction c with
  | nil =>
    cases last with
    | abort | fault => exact ⟨⟨trivial, trivial⟩, rfl⟩
    | _ => simp [Frame.isFailure] at failure
  | cons frame rest ih =>
    simp only [Control.steady_cons, Bool.and_eq_true] at steady
    obtain ⟨fits, inner⟩ := nested
    obtain ⟨nested, held⟩ := ih steady.2 inner
    cases frame with
    | returned generation base =>
      have clear : Control.held rest = false := fits
      exact ⟨⟨trivial, trivial⟩, clear.symm⟩
    | restore guard | dispose guard =>
      have saved : guard.saved = Control.held rest := fits
      exact ⟨⟨saved.trans held.symm, nested⟩, rfl⟩
    | perform r guard caller | preempt guard =>
      have saved : guard.saved = Control.held rest := fits.1
      exact ⟨⟨saved.trans held.symm, nested⟩, rfl⟩
    | unmask | reap | start | fetch => simp [Frame.isSteady] at steady
    | _ => exact ⟨nested, held⟩

/-- So does a program that returns early. -/
theorem User.filter_nested (user : User actor c) (nested : c.Nested) :
    Control.Nested (c.filter Frame.outlivesReturn) ∧
      Control.held (c.filter Frame.outlivesReturn) = c.held := by
  induction user with
  | run _ _ ih | loop _ _ _ ih | whileAlive _ _ _ _ ih | note _ _ _ ih => exact ih nested.2
  | restore guard _ ih =>
    obtain ⟨fits, inner⟩ := nested
    obtain ⟨nested, held⟩ := ih inner
    have saved : guard.saved = Control.held _ := fits
    exact ⟨⟨saved.trans held.symm, nested⟩, rfl⟩
  | returned | close | quit => exact ⟨nested, rfl⟩

/-- Whoever asks the scheduler for something can fail without leaving the mask behind. -/
theorem Control.steady_of_asks {stackSize : Nat} {map : Nat → Except OsError Nat}
    {op : Scheduler.Op} (asked : c.asks stackSize map = some op) (nested : c.Nested) : c.steady := by
  unfold Control.asks at asked
  split at asked
  · exact nested.1.2
  · exact nested.1.2
  · simp at asked

theorem Control.Served.held (served : c.Served c') : c'.held := by cases served <;> rfl

theorem Control.Served.ne_preempt (served : c.Served c') (guard : Guard) (rest : Control) :
    c' ≠ .preempt guard :: rest := by
  cases served <;> simp

theorem Control.Served.nested (served : c.Served c') (nested : c.Nested) : c'.Nested := by
  cases served with
  | answered | suspended | preempted =>
    simp only [Control.nested_cons, Frame.Fits] at nested
    simp [Frame.Fits, Frame.holds, nested]

namespace Machine

variable {A : Actor → Option Nat → Prop} {m : Machine} {d d' : Dispatcher Control}

/-- A thread that enters the library has it put back the mask that it found. -/
theorem Enters.nested (entry : Enters m c c') (calm : Calm actor c) (masked : m.masked = c.held)
    (nested : c.Nested) : c'.Nested := by
  cases entry with
  | asks passed is rest | fires hosted is rest =>
    have inside : Control.held rest = m.masked := masked.symm
    have steady : Control.steady rest := by
      cases calm with
      | user user => exact user.steady
    simp [Frame.Fits, Frame.holds, Frame.isSteady, inside, steady, nested.2]
  | closes is rest | leaves rest =>
    have inside : Control.held rest = m.masked := masked.symm
    simp [Frame.Fits, Frame.holds, inside, nested.2]
  | ends tid caller generation base rest =>
    cases calm with
    | user user => cases user
    | finish own => exact ⟨⟨masked, rfl⟩, trivial⟩
  | interrupted handled clear c =>
    have free : c.held = false := masked.symm.trans clear
    simp [Frame.Fits, Frame.holds, Frame.isSteady, free, nested, Control.steady_of_clear free]

theorem Enters.inKernel (entry : Enters m c c') : c'.inKernel := by cases entry <;> rfl

/-- A stride leaves the mask as the control says. -/
theorem Stride.nested {b : Bool} (stride : Stride m c b c') (calm : Calm actor c)
    (masked : m.masked = c.held) (nested : c.Nested) : b = c'.held ∧ c'.Nested := by
  cases stride with
  | enters entry =>
    exact ⟨(Control.held_of_inKernel entry.inKernel).symm, entry.nested calm masked nested⟩
  | @drops frame program rest =>
    refine ⟨?_, nested.2⟩
    cases frame with
    | run | loop | whileAlive | note => exact masked
    | _ => simp [Frame.isProgram] at program
  | round | again | reports | loops | probes =>
    exact ⟨masked, trivial, trivial, nested.2⟩
  | forwards result is rest | masks body is rest =>
    have inside : Control.held rest = m.masked := masked.symm
    simp [Frame.Fits, Frame.holds, inside, nested.2]
  | stops is rest =>
    cases calm with
    | user user =>
      cases user with
      | run program user =>
        obtain ⟨nested, held⟩ := (User.run is user).filter_nested nested
        exact ⟨masked.trans held.symm, nested⟩
  | fails failure program rest =>
    cases calm with
    | user user =>
      obtain ⟨nested, held⟩ := unwind_nested failure user.steady nested
      exact ⟨masked.trans held.symm, nested⟩
  | restores guard rest => exact nested
  | unmasks rest => exact ⟨nested.1.symm, nested.2⟩
  | returns generation base rest => exact ⟨masked, trivial, nested.2⟩
  | ignored => exact ⟨masked, nested⟩

end Machine

end RoundRobin
