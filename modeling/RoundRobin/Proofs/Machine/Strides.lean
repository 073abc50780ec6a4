import RoundRobin.Proofs.Machine.Solo

/-!
# Strides

A thread outside the library works off its own control. `Stride` lists what one step makes of the
mask and of the control then, frame by frame, and `Enters` the ways into the library among them.
Whatever every stride keeps, a thread keeps by itself.
-/

namespace RoundRobin

def Frame.isProgram : Frame → Bool
  | .run _ | .loop .. | .whileAlive .. | .note .. => true
  | _ => false

def Frame.isFailure : Frame → Bool
  | .abort .entryFailed | .fault _ => true
  | _ => false

namespace Machine

/-- The ways into the library, from a control outside to one inside. -/
inductive Enters (m : Machine) : Control → Control → Prop where
  | asks {call : Call Target} {r : Request} {host : Host Control}
      (passed : m.host.examine homeThread (call.map m.resolve) = .ok (.request r, host))
      (is : List Instr) (rest : Control) :
      Enters m (.run (.call call :: is) :: rest)
        (.perform r ⟨m.masked⟩ (.program call.deed) :: .run is :: rest)
  | fires (hosted : m.host.dispatcher.isSome) (is : List Instr) (rest : Control) :
      Enters m (.run (.fire :: is) :: rest)
        (.preempt ⟨m.masked⟩ :: .note .ticked (.fired true) :: .run is :: rest)
  | closes (is : List Instr) (rest : Control) :
      Enters m (.run (.close :: is) :: rest) (.dispose ⟨m.masked⟩ :: .closed :: .run is :: rest)
  | ends (tid : Tid) (caller : Caller) (generation base : Nat) (rest : Control) :
      Enters m (.finish generation base :: rest)
        (.perform (.terminate tid) ⟨m.masked⟩ caller :: rest)
  | leaves (rest : Control) : Enters m (.close :: rest) (.dispose ⟨m.masked⟩ :: .quit :: rest)
  /-- The waiting signal runs the handler, which begins with a section of its own. -/
  | interrupted (handled : m.host.signal.disposition = .handler) (clear : m.masked = false)
      (c : Control) : Enters m c (.preempt ⟨true⟩ :: .restore ⟨false⟩ :: c)

/-- From a control outside the library to the mask and the control after the next step. -/
inductive Stride (m : Machine) : Control → Bool → Control → Prop where
  | drops {frame : Frame} (program : frame.isProgram) (rest : Control) :
      Stride m (frame :: rest) m.masked rest
  | round (times : Nat) (body : List Instr) (rest : Control) :
      Stride m (.loop (times + 1) body :: rest) m.masked (.run body :: .loop times body :: rest)
  | again (left : Nat) (tid : Tid) (body : List Instr) (rest : Control) :
      Stride m (.whileAlive (left + 1) tid body :: rest) m.masked
        (.run body :: .whileAlive left tid body :: rest)
  /-- The instruction is done with, except for its note. -/
  | reports (i : Instr) (did : Deed) (result : Result) (is : List Instr) (rest : Control) :
      Stride m (.run (i :: is) :: rest) m.masked (.note did result :: .run is :: rest)
  | loops (times : Nat) (body is : List Instr) (rest : Control) :
      Stride m (.run (.loop times body :: is) :: rest) m.masked
        (.loop times body :: .run is :: rest)
  | probes (t : Target) (tid : Tid) (body is : List Instr) (rest : Control) :
      Stride m (.run (.whileAlive t body :: is) :: rest) m.masked
        (.whileAlive aliveRounds tid body :: .run is :: rest)
  | forwards (result : Result) (is : List Instr) (rest : Control) :
      Stride m (.run (.raiseElsewhere :: is) :: rest) true
        (.restore ⟨m.masked⟩ :: .note .tickedElsewhere result :: .run is :: rest)
  | masks (body is : List Instr) (rest : Control) :
      Stride m (.run (.masked body :: is) :: rest) true
        (.run body :: .restore ⟨m.masked⟩ :: .note .masked .unmasked :: .run is :: rest)
  | stops (is : List Instr) (rest : Control) :
      Stride m (.run (.stop :: is) :: rest) m.masked
        ((.run is :: rest : Control).filter Frame.outlivesReturn)
  | fails {last : Frame} (failure : last.isFailure) (program : List Instr) (rest : Control) :
      Stride m (.run program :: rest) m.masked (unwind last (.run program :: rest))
  | restores (guard : Guard) (rest : Control) : Stride m (.restore guard :: rest) guard.saved rest
  | unmasks (rest : Control) : Stride m (.unmask :: rest) false rest
  | returns (generation base : Nat) (rest : Control) :
      Stride m (.returned generation base :: rest) m.masked (.finish generation base :: rest)
  | enters {c c' : Control} (entry : Enters m c c') : Stride m c true c'
  /-- The waiting signal is taken and does nothing. -/
  | ignored (c : Control) : Stride m c m.masked c

variable {m : Machine}

theorem deliver_strides (clear : m.masked = false) (goesOn : m.deliver.ending = none) :
    Stride m m.control m.deliver.masked m.deliver.control := by
  have guard : m.host.signal.gate = ⟨false⟩ := congrArg Gate.mk clear
  unfold deliver Signal.deliver at goesOn ⊢
  cases handled : m.host.signal.disposition with
  | default => simp [handled, finish] at goesOn
  | ignore =>
    simp only
    exact .ignored _
  | handler =>
    cases m.host.signal.callback with
    | none =>
      simp only
      exact .ignored _
    | some callback =>
      simp only [Signal.enter, Gate.enter, guard]
      exact .enters (.interrupted handled clear _)

theorem call_strides {c : Call Target} {is : List Instr} {rest : Control}
    (control : m.control = .run (.call c :: is) :: rest) :
    Stride m (.run (.call c :: is) :: rest) (m.call c (.run is :: rest)).masked
      (m.call c (.run is :: rest)).control := by
  unfold Machine.call
  rcases m.host.examine_cases homeThread (c.map m.resolve) with
    ⟨f, fault⟩ | ⟨a, answered⟩ | ⟨r, passed, _⟩
  · rw [fault, ← control]
    simp only [proceed, halt, control]
    exact .fails rfl _ _
  · rw [answered]
    exact .reports _ _ _ _ _
  · rw [passed]
    exact .enters (.asks passed _ _)

theorem callElsewhere_strides {c : Call Target} {is : List Instr} {rest : Control}
    (control : m.control = .run (.foreign c :: is) :: rest)
    (home : m.host.owner ≠ some otherThread)
    (goesOn : (m.callElsewhere c (.run is :: rest)).ending = none) :
    (m.callElsewhere c (.run is :: rest)).host.owner = some otherThread ∨
      Stride m (.run (.foreign c :: is) :: rest) (m.callElsewhere c (.run is :: rest)).masked
        (m.callElsewhere c (.run is :: rest)).control := by
  unfold Machine.callElsewhere at goesOn ⊢
  rcases m.host.examine_cases otherThread (c.map m.resolve) with
    ⟨f, fault⟩ | ⟨a, answered⟩ | ⟨r, passed, owner⟩
  · have stuck : m.host.call m.objections primeControl otherThread (c.map m.resolve) =
        .error (.fault f) := by simp [Host.call, fault]
    rw [stuck]
    simp only [proceed, halt, control]
    exact .inr (.fails rfl _ _)
  · have called : m.host.call m.objections primeControl otherThread (c.map m.resolve) =
        .ok ⟨.returns a, [], m.host⟩ := by
      simp [Host.call, answered]
    rw [called]
    exact .inr (.reports _ _ _ _ _)
  · have unowned : m.host.owner = none := owner.resolve_right home
    cases called : m.host.call m.objections primeControl otherThread (c.map m.resolve) with
    | error h =>
      cases h with
      | fault f =>
        simp only [proceed, halt, control]
        exact .inr (.fails rfl _ _)
      | abort a => simp [called, proceed, halt, finish] at goesOn
    | ok report =>
      have foreign : report.host.owner = some otherThread := Host.call_owner passed called
      left
      simp only [proceed]
      split <;> exact foreign

theorem fire_strides {is : List Instr} {rest : Control} :
    Stride m (.run (.fire :: is) :: rest) (m.fire (.run is :: rest)).masked
      (m.fire (.run is :: rest)).control := by
  unfold Machine.fire
  split
  · next dispatcher =>
    split
    · exact .enters (.fires (by rw [dispatcher]; rfl) _ _)
    · exact .reports _ _ _ _ _
  · exact .reports _ _ _ _ _

theorem execute_strides {i : Instr} {is : List Instr} {rest : Control}
    (control : m.control = .run (i :: is) :: rest) (home : m.host.owner ≠ some otherThread)
    (goesOn : (m.execute (.run is :: rest) i).ending = none) :
    (m.execute (.run is :: rest) i).host.owner = some otherThread ∨
      Stride m (.run (i :: is) :: rest) (m.execute (.run is :: rest) i).masked
        (m.execute (.run is :: rest) i).control := by
  cases i with
  | call c => exact .inr (call_strides control)
  | foreign c => exact callElsewhere_strides control home goesOn
  | fire => exact .inr fire_strides
  | raise | readTimer | readSignal | readConfig => exact .inr (.reports _ _ _ _ _)
  | raiseElsewhere =>
    simp only [execute, raiseElsewhere] at goesOn ⊢
    split at goesOn
    · simp [finish] at goesOn
    · next raised =>
      obtain ⟨pending, forwarded, rfl⟩ := Signal.raiseElsewhere_eq raised
      exact .inr (.forwards _ _ _)
  | loop times body => exact .inr (.loops _ _ _ _)
  | whileAlive t body => exact .inr (.probes _ _ _ _ _)
  | masked body => exact .inr (.masks _ _ _)
  | stop => exact .inr (.stops _ _)
  | fail =>
    simp only [execute, control]
    exact .inr (.fails rfl _ _)
  | close => exact .inr (.enters (.closes _ _))

/-- Outside the library every step is a stride, unless the process ends by it or another OS thread
makes itself the owner. -/
theorem strides (live : m.ending = none) (outside : m.control.inKernel = false)
    (home : m.host.owner ≠ some otherThread) (goesOn : m.step.ending = none) :
    m.step.host.owner = some otherThread ∨ Stride m m.control m.step.masked m.step.control := by
  cases waits : m.host.signal.isDeliverable with
  | true =>
    have delivers : m.step = m.deliver := by simp [step, live, waits]
    have clear : m.masked = false := by
      simp only [Signal.isDeliverable, Bool.and_eq_true, Bool.not_eq_true'] at waits
      exact waits.2
    rw [delivers] at goesOn ⊢
    exact .inr (deliver_strides clear goesOn)
  | false =>
    cases control : m.control with
    | nil => simp [step, live, waits, control, finish] at goesOn
    | cons frame rest =>
      rw [step_of_frame live waits control] at goesOn ⊢
      rw [control] at outside
      cases frame with
      | run program =>
        cases program with
        | nil => exact .inr (.drops rfl _)
        | cons i is => exact execute_strides control home goesOn
      | loop times body =>
        cases times with
        | zero => exact .inr (.drops rfl _)
        | succ times => exact .inr (.round _ _ _)
      | whileAlive left tid body =>
        cases left with
        | zero => exact .inr (.drops rfl _)
        | succ left =>
          simp only [work]
          split
          · exact .inr (.again _ _ _ _)
          · exact .inr (.drops rfl _)
      | note did result => exact .inr (.drops rfl _)
      | restore guard => exact .inr (.restores _ _)
      | unmask => exact .inr (.unmasks _)
      | returned generation base => exact .inr (.returns _ _ _)
      | finish generation base =>
        simp only [work, finishThread] at goesOn ⊢
        split at goesOn
        · simp [halt, Machine.finish] at goesOn
        · split
          · exact .inr (.enters (.ends _ _ _ _ _))
          · exact .inr (.enters (.ends _ _ _ _ _))
      | close => exact .inr (.enters (.leaves _))
      | abort | fault | closed | quit => simp [work, halt, Machine.finish, record] at goesOn
      | perform | preempt | reap | start | fetch | dispose => simp [Control.inKernel] at outside

/-- A calm thread that gets into the library does so by one of the ways in. -/
theorem Stride.entry {actor : Actor} {c c' : Control} {b : Bool} (stride : Stride m c b c')
    (calm : Calm actor c) (kernel : c'.inKernel) : Enters m c c' := by
  have outside : ∀ {c : Control}, Calm actor c → c.inKernel → False := by
    intro c calm kernel
    simp [calm.outside] at kernel
  cases stride with
  | enters entry => exact entry
  | drops program rest =>
    refine (outside ?_ kernel).elim
    cases calm with
    | user user =>
      cases user with
      | run _ user | loop _ _ user | whileAlive _ _ _ user | note _ _ user => exact .user user
      | restore | returned | close | quit => simp [Frame.isProgram] at program
    | _ => simp [Frame.isProgram] at program
  | stops is rest =>
    refine (outside ?_ kernel).elim
    cases calm with
    | user user =>
      cases user with
      | run _ user => exact .user (User.run is user).filter
  | @fails last failure program rest =>
    refine (outside (calm_unwind ?_ _) kernel).elim
    unfold Frame.isFailure at failure
    split at failure
    · exact .failed
    · exact .faulted _
    · simp at failure
  | restores guard rest =>
    refine (outside ?_ kernel).elim
    cases calm with
    | user user =>
      cases user with
      | restore _ user => exact .user user
    | restore _ calm => exact calm
  | unmasks rest =>
    refine (outside ?_ kernel).elim
    cases calm with
    | user user => cases user
    | unmask calm => exact calm
  | ignored => exact (outside calm kernel).elim
  | _ => simp [Control.inKernel] at kernel

end Machine

end RoundRobin
