import RoundRobin.Proofs.Machine.Ledger

/-!
# Who does what

An act is something that the program of a thread does: an instruction, a look at whether a thread is
still alive, or what comes of itself after the last instruction. Whenever there is one, the slot of
the current thread belongs to the thread whose program it is.
-/

namespace RoundRobin

inductive Act where
  | instr (i : Instr)
  /-- A look at whether to go on with the rounds of a `whileAlive`. -/
  | probe (tid : Tid) (alive : Bool)
  /-- What a spawned thread does after its program. -/
  | ending

/-- What a call asks for inside the library, if it is neither answered at once nor starts over. -/
def Call.request : Call Tid → Option Request
  | .spawn entry => some (.spawn entry)
  | .terminate tid => some (.terminate tid)
  | .block tid => some (.block tid)
  | .resume tid => some (.resume tid)
  | .sleep quanta => some (.sleep quanta)
  | .quantaOf tid => some (.quantaOf tid)
  | .stateOf tid => some (.stateOf tid)
  | .init .. | .current | .total => none

theorem Call.request_ne_install {c : Call Tid} {r : Request} (asks : c.request = some r)
    (config : Config) : r ≠ .install config := by
  rintro rfl
  cases c <;> simp [Call.request] at asks

section Host

variable {κ : Type} {h : Host κ} {caller : OsThread} {d : Dispatcher κ}

theorem Host.of_visible (seen : h.visible caller = some d) :
    h.owner = some caller ∧ h.dispatcher = some d := by
  unfold visible at seen
  split at seen
  · simp at seen
  · next passed =>
    refine ⟨?_, seen⟩
    cases owner : h.owner with
    | none => simp [refusal, owner] at passed
    | some x =>
      by_cases same : x = caller
      · rw [same]
      · simp [refusal, owner, same] at passed

/-- Calls of the owner get into the library. -/
theorem Host.examine_request (seen : h.visible caller = some d) {c : Call Tid} {r : Request}
    (asks : c.request = some r) : h.examine caller c = .ok (.request r, h) := by
  obtain ⟨owner, dispatcher⟩ := of_visible seen
  have through : h.letThrough caller r = (.request r, h) := by
    simp [letThrough, refusal, owner, dispatcher]
  cases c with
  | init | current | total => simp [Call.request] at asks
  | _ =>
    obtain rfl := Option.some.inj asks
    simp only [examine, through]

end Host

namespace Machine

/-- The act of the next step. A signal that waits comes first. -/
def act (m : Machine) : Option Act :=
  match m.ending, m.host.signal.isDeliverable, m.control with
  | none, false, .run (i :: _) :: _ => some (.instr i)
  | none, false, .whileAlive (_ + 1) tid _ :: _ => some (.probe tid (m.isAlive tid))
  | none, false, .finish _ _ :: _ => some .ending
  | _, _, _ => none

variable {A : Actor → Option Nat → Prop} {m : Machine} {a : Act} {d : Dispatcher Control}

/-- The frames that acts come from. -/
theorem act_cases (acts : m.act = some a) :
    m.ending = none ∧ m.host.signal.isDeliverable = false ∧
      ((∃ i is rest, m.control = .run (i :: is) :: rest ∧ a = .instr i) ∨
        (∃ left tid body rest, m.control = .whileAlive (left + 1) tid body :: rest ∧
          a = .probe tid (m.isAlive tid)) ∨
        ∃ generation base rest, m.control = .finish generation base :: rest ∧ a = .ending) := by
  unfold act at acts
  split at acts
  · next live still control =>
    exact ⟨live, still, .inl ⟨_, _, _, control, (Option.some.inj acts).symm⟩⟩
  · next live still control =>
    exact ⟨live, still, .inr (.inl ⟨_, _, _, _, control, (Option.some.inj acts).symm⟩)⟩
  · next live still control =>
    exact ⟨live, still, .inr (.inr ⟨_, _, _, control, (Option.some.inj acts).symm⟩)⟩
  · simp at acts

theorem act_instr {i : Instr} (acts : m.act = some (.instr i)) :
    m.ending = none ∧ m.host.signal.isDeliverable = false ∧
      ∃ is rest, m.control = .run (i :: is) :: rest := by
  obtain ⟨live, still, ⟨_, is, rest, control, same⟩ | ⟨_, _, _, _, _, same⟩ |
    ⟨_, _, _, _, same⟩⟩ := act_cases acts
  · obtain rfl := Act.instr.inj same
    exact ⟨live, still, is, rest, control⟩
  · cases same
  · cases same

theorem act_ending (acts : m.act = some .ending) :
    ∃ generation base rest, m.control = .finish generation base :: rest := by
  obtain ⟨_, _, ⟨_, _, _, _, same⟩ | ⟨_, _, _, _, _, same⟩ |
    ⟨generation, base, rest, control, _⟩⟩ := act_cases acts
  · cases same
  · cases same
  · exact ⟨generation, base, rest, control⟩

theorem act_outside (acts : m.act = some a) : m.control.inKernel = false := by
  obtain ⟨_, _, ⟨i, is, rest, control, _⟩ | ⟨left, tid, body, rest, control, _⟩ |
    ⟨generation, base, rest, control, _⟩⟩ := act_cases acts <;> rw [control] <;> rfl

/-- A call that is admitted enters a section and leaves the rest to the library. -/
theorem step_request (live : m.ending = none) (still : m.host.signal.isDeliverable = false)
    (seen : m.host.visible homeThread = some d) {c : Call Target} {is : List Instr} {rest : Control}
    (control : m.control = .run (.call c :: is) :: rest) {r : Request}
    (asks : (c.map m.resolve).request = some r) :
    m.step =
      { m with
        host := { m.host with signal := m.host.signal.enter.2 }
        control := .perform r ⟨m.masked⟩ (.program c.deed) :: .run is :: rest } := by
  rw [step_of_frame live still control]
  simp only [work, execute, Machine.call, Host.examine_request seen asks, proceed]
  rfl

/-- The frames of a program tell whose it is. -/
theorem Calm.actor_of_act {actor : Actor} (calm : Calm actor m.control) (acts : m.act = some a) :
    m.control.actor = actor := by
  obtain ⟨_, _, ⟨i, is, rest, control, _⟩ | ⟨left, tid, body, rest, control, _⟩ |
    ⟨generation, base, rest, control, _⟩⟩ := act_cases acts <;> rw [control] at calm ⊢
  · cases calm with
    | user user => exact user.actor_eq
  · cases calm with
    | user user => exact user.actor_eq
  · cases calm with
    | user user => cases user
    | finish own => exact own.symm

theorem Shape.calm_of_act {actor : Actor} {tid : Tid} (shape : Shape tid actor m.control)
    (acts : m.act = some a) : Calm actor m.control := by
  have outside := act_outside acts
  generalize m.control = c at shape outside
  cases shape with
  | calm calm => exact calm
  | _ => simp [Control.inKernel] at outside

theorem Shape.actor_of_act {actor : Actor} {tid : Tid} (shape : Shape tid actor m.control)
    (acts : m.act = some a) : m.control.actor = actor :=
  Calm.actor_of_act (Shape.calm_of_act shape acts) acts

/-- An act is made by the thread that the scheduler says is current. -/
theorem Hosted.acts (hosted : Hosted A m d) (acts : m.act = some a) :
    ∃ t, d.scheduler.threads[d.scheduler.current]? = some t ∧ A m.control.actor t.entry ∧
      Tenant d.generation d.scheduler.current t.stack m.control.actor := by
  obtain ⟨t, actor, slot, among, tenant, shape⟩ := hosted.current_slot
  rw [Shape.actor_of_act shape acts]
  exact ⟨t, slot, among, tenant⟩

theorem HandedOver.silent (handed : HandedOver m d) : m.act = none := by
  obtain ⟨rest, control⟩ := handed.reaps
  simp [act, control]

theorem Leaving.silent (leaving : Leaving m.control) : m.act = none := by
  cases acts : m.act with
  | none => rfl
  | some a =>
    obtain ⟨_, _, ⟨i, is, rest, control, _⟩ | ⟨left, tid, body, rest, control, _⟩ |
      ⟨generation, base, rest, control, _⟩⟩ := act_cases acts <;> rw [control] at leaving <;>
      cases leaving

/-- Nobody acts unless a dispatcher is in charge, or is still to be made. -/
theorem Phase.acting (phase : m.Phase A) (home : m.host.owner ≠ some otherThread)
    (acts : m.act = some a) : m.Bare A ∨ ∃ d, Hosted A m d := by
  cases phase with
  | ended gone => simp [(act_cases acts).1] at gone
  | foreign owner => exact absurd owner home
  | bare bare => exact .inl bare
  | hosted d hosted => exact .inr ⟨d, hosted⟩
  | handedOver d handed => simp [handed.silent] at acts
  | leaving _ _ leaving => simp [leaving.silent] at acts

/-- Whoever acts is among `A`. -/
theorem Phase.acts (phase : m.Phase A) (home : m.host.owner ≠ some otherThread)
    (acts : m.act = some a) : ∃ entry, A m.control.actor entry := by
  rcases phase.acting home acts with bare | ⟨d, hosted⟩
  · exact ⟨none, Shape.actor_of_act bare.shape acts ▸ bare.among⟩
  · obtain ⟨t, _, among, _⟩ := hosted.acts acts
    exact ⟨t.entry, among⟩

end Machine

end RoundRobin
