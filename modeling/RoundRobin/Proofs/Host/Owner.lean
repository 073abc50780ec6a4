import RoundRobin.Host.Call
import RoundRobin.Proofs.Checked

/-!
# The owner of the threads

An OS thread becomes the owner by the first initialisation that gets past the look at its settings,
and no call changes the owner after that. To everybody else calls answer before they reach the
dispatcher.
-/

namespace RoundRobin.Host

variable {κ : Type} {h h' : Host κ} {d : Dispatcher κ} {objections : Objections}
  {prime : Nat → Tid → Stack → Option κ}

@[simp]
theorem rearm_owner (h : Host κ) (d : Dispatcher κ) : (h.rearm d).owner = h.owner := by
  unfold rearm
  split <;> rfl

@[simp]
theorem disarm_owner (h : Host κ) (d : Dispatcher κ) : (h.disarm d).owner = h.owner := by
  unfold disarm
  split <;> rfl

@[simp]
theorem teardown_owner (h : Host κ) (d : Dispatcher κ) : (h.teardown d).2.owner = h.owner := by
  simp [teardown, unmap]

@[simp]
theorem reap_owner (h : Host κ) (d : Dispatcher κ) : (h.reap d).2.owner = h.owner := by
  unfold reap
  dsimp only
  split
  · simp [unmap, put]
  · rfl

theorem reschedule_owner {voluntary : Bool} {switch : Switch}
    (rescheduled : h.reschedule d voluntary = .ok (switch, h')) : h'.owner = h.owner := by
  simp only [reschedule, bind_eq_ok, Prod.exists, pure_eq_ok, Except.ok.injEq,
    Prod.mk.injEq] at rescheduled
  obtain ⟨_, _, _, _, rfl⟩ := rescheduled
  split
  · simp
  · rfl

theorem dispose_owner {retired : Bool} {events : List Event}
    (disposed : h.dispose d retired = .ok (events, h')) : h'.owner = h.owner := by
  simp only [dispose, bind_eq_ok, Prod.exists, pure_eq_ok, Except.ok.injEq,
    Prod.mk.injEq] at disposed
  obtain ⟨_, _, _, _, rfl⟩ := disposed
  simp

theorem launch_owner {capacity : Nat} {config : Config} {timer : Timer} {adopted : Option Stack}
    {event : Event} (launched : h.launch capacity config timer adopted = .ok (event, h')) :
    h'.owner = h.owner := by
  simp only [launch, bind_eq_ok, pure_eq_ok] at launched
  obtain ⟨_, _, launched⟩ := launched
  cases adopted with
  | none =>
    obtain rfl := (Prod.mk.inj (Except.ok.inj launched)).2
    cases timer <;> rfl
  | some stack =>
    simp only [bind_eq_ok, Except.ok.injEq, Prod.mk.injEq] at launched
    obtain ⟨_, _, _, rfl⟩ := launched
    cases timer <;> rfl

theorem retire_owner {own : Option Stack} {events : List Event}
    (retired : h.retire d = .ok (own, events, h')) : h'.owner = h.owner := by
  simp only [retire, bind_eq_ok, Prod.exists] at retired
  obtain ⟨_, s, _, retired⟩ := retired
  split at retired
  · simp only [bind_eq_ok, Prod.exists, pure_eq_ok, Except.ok.injEq, Prod.mk.injEq] at retired
    obtain ⟨_, _, disposed, _, _, rfl⟩ := retired
    exact dispose_owner disposed
  · simp only [bind_eq_ok, Prod.exists, pure_eq_ok, Except.ok.injEq, Prod.mk.injEq] at retired
    obtain ⟨main, _, _, _, _, disposed, _, _, rfl⟩ := retired
    exact dispose_owner (h := h.unmap main.toList) disposed

theorem install_owner {config : Config} {report : Report κ}
    (installed : h.install config = .ok report) : report.host.owner = h.owner := by
  unfold install at installed
  split at installed
  · simp only [bind_eq_ok, Prod.exists, pure_eq_ok, Except.ok.injEq] at installed
    obtain ⟨_, _, launched, rfl⟩ := installed
    exact launch_owner launched
  · simp only [bind_eq_ok, Prod.exists, pure_eq_ok, Except.ok.injEq] at installed
    obtain ⟨_, _, _, retired, _, _, launched, rfl⟩ := installed
    exact (launch_owner launched).trans (retire_owner retired)

theorem suspend_owner {report : Report κ} (suspended : h.suspend d = .ok report) :
    report.host.owner = h.owner := by
  simp only [suspend, bind_eq_ok, Prod.exists, pure_eq_ok, Except.ok.injEq] at suspended
  obtain ⟨_, _, rescheduled, rfl⟩ := suspended
  exact reschedule_owner rescheduled

theorem suspended_owner {x : Except Error Suspension × Scheduler κ} {report : Report κ}
    (suspended : h.suspended d x = .ok report) : report.host.owner = h.owner := by
  unfold Host.suspended at suspended
  split at suspended
  · exact Except.ok.inj suspended ▸ rfl
  · exact Except.ok.inj suspended ▸ rfl
  · exact suspend_owner suspended

theorem spawn_owner {prime : Tid → Stack → Option κ} {entry : Option Nat} {report : Report κ}
    (spawned : h.spawn d objections prime entry = .ok report) : report.host.owner = h.owner := by
  simp only [spawn, bind_eq_ok, Prod.exists] at spawned
  obtain ⟨answer, _, _, spawned⟩ := spawned
  cases answer <;> exact Except.ok.inj spawned ▸ rfl

theorem terminate_owner {tid : Tid} {report : Report κ}
    (terminated : h.terminate d tid = .ok report) : report.host.owner = h.owner := by
  simp only [terminate, bind_eq_ok, Prod.exists] at terminated
  obtain ⟨answer, s, _, terminated⟩ := terminated
  split at terminated
  · exact Except.ok.inj terminated ▸ rfl
  · exact Except.ok.inj terminated ▸ rfl
  · simp only [bind_eq_ok, Prod.exists, pure_eq_ok, Except.ok.injEq] at terminated
    obtain ⟨_, _, rescheduled, rfl⟩ := terminated
    exact reschedule_owner rescheduled
  · split at terminated
    · obtain rfl := Except.ok.inj terminated
      simp
    · simp only [bind_eq_ok, Prod.exists, pure_eq_ok, Except.ok.injEq] at terminated
      obtain ⟨_, _, _, rfl⟩ := terminated
      rfl

/-- A switch concerns the dispatcher alone. -/
theorem exchange_inv {s : Switch} {back next : κ}
    (exchanged : h.exchange s back = .ok (next, h')) :
    ∃ dispatcher, h' = { h with dispatcher } := by
  unfold exchange at exchanged
  split at exchanged
  · exact ⟨_, (Prod.mk.inj (Except.ok.inj exchanged)).2.symm⟩
  · split at exchanged
    · cases exchanged
    · simp only [bind_eq_ok] at exchanged
      obtain ⟨_, _, context, _, exchanged⟩ := exchanged
      cases context with
      | none => cases exchanged
      | some control => exact ⟨_, (Prod.mk.inj (Except.ok.inj exchanged)).2.symm⟩

theorem answered_owner {α : Type} (f : α → Answer) (x : Except Error α) :
    (h.answered f x).host = h := by
  cases x <;> rfl

theorem perform_owner {r : Request} {report : Report κ}
    (performed : h.perform objections prime r = .ok report) : report.host.owner = h.owner := by
  unfold perform at performed
  split at performed
  · exact install_owner performed
  · exact Except.ok.inj performed ▸ rfl
  · exact spawn_owner performed
  · exact terminate_owner performed
  · simp only [bind_eq_ok] at performed
    obtain ⟨_, _, suspended⟩ := performed
    exact suspended_owner suspended
  · simp only [bind_eq_ok] at performed
    obtain ⟨_, _, suspended⟩ := performed
    exact suspended_owner suspended
  · simp only [bind_eq_ok, Prod.exists, pure_eq_ok, Except.ok.injEq] at performed
    obtain ⟨_, _, _, rfl⟩ := performed
    rw [answered_owner]
    rfl
  · rw [← Except.ok.inj performed, answered_owner]
  · rw [← Except.ok.inj performed, answered_owner]

theorem carryOut_owner {r : Request} {report : Report κ}
    (carried : h.carryOut objections prime r = .ok report) : report.host.owner = h.owner := by
  simp only [carryOut, bind_eq_ok] at carried
  obtain ⟨performed, made, carried⟩ := carried
  have owner : performed.host.owner = h.owner := perform_owner (h := h.enter.2) made
  split at carried
  · exact Except.ok.inj carried ▸ owner
  · exact Except.ok.inj carried ▸ owner

theorem roundToPages_cases (bytes page : Nat) :
    (∃ n, roundToPages bytes page = .ok n) ∨ ∃ f, roundToPages bytes page = .error (.fault f) := by
  unfold roundToPages Checked.divCeil
  split
  · exact .inr ⟨.divideByZero, rfl⟩
  · rw [ok_bind, Checked.mul]
    split
    · exact .inl ⟨_, rfl⟩
    · exact .inr ⟨.mulOverflow, rfl⟩

/-- Settings that cannot be made are a fault, never an abort. -/
theorem settings_cases (micros : Nat) (stackSize : Option Nat) :
    (∃ x, settings micros stackSize = .ok x) ∨
      ∃ f, settings micros stackSize = .error (.fault f) := by
  cases made : Config.ofMicros micros with
  | error e => exact .inl ⟨.error e, by simp [settings, made]⟩
  | ok config =>
    cases stackSize with
    | none => exact .inl ⟨.ok config, by simp [settings, made]⟩
    | some bytes =>
      rcases roundToPages_cases (max bytes minStackSize) pageSize with ⟨n, rounded⟩ | ⟨f, fault⟩
      · exact .inl ⟨_, by simp [settings, made, Config.withStackSize, rounded]; rfl⟩
      · exact .inr ⟨f, by simp [settings, made, Config.withStackSize, fault]⟩

/-- What a call comes to: it cannot be made, or it is answered, or it is let through. Being let
through makes the caller the owner if there was none. -/
theorem examine_cases (h : Host κ) (caller : OsThread) (call : Call Tid) :
    (∃ f, h.examine caller call = .error (.fault f)) ∨
      (∃ a, h.examine caller call = .ok (.answer a, h)) ∨
      ∃ r, h.examine caller call = .ok (.request r, { h with owner := some caller }) ∧
        (h.owner = none ∨ h.owner = some caller) := by
  have through : ∀ r, (∃ a, h.letThrough caller r = (.answer a, h)) ∨
      (h.letThrough caller r = (.request r, { h with owner := some caller }) ∧
        h.owner = some caller) := by
    intro r
    unfold letThrough
    split
    · next e _ => exact .inl ⟨.refused e, rfl⟩
    · next passed =>
      have mine : h.owner = some caller := by
        cases held : h.owner with
        | none => simp [refusal, held] at passed
        | some owner =>
          by_cases same : owner = caller
          · rw [same]
          · simp [refusal, held, same] at passed
      exact .inr ⟨by rw [← mine], mine⟩
  have request : ∀ r, h.examine caller call = .ok (h.letThrough caller r) →
      (∃ a, h.examine caller call = .ok (.answer a, h)) ∨
        ∃ r, h.examine caller call = .ok (.request r, { h with owner := some caller }) ∧
          (h.owner = none ∨ h.owner = some caller) := by
    intro r examined
    rcases through r with ⟨a, answered⟩ | ⟨passed, mine⟩
    · exact .inl ⟨a, examined.trans (congrArg Except.ok answered)⟩
    · exact .inr ⟨r, examined.trans (congrArg Except.ok passed), .inr mine⟩
  cases call with
  | init micros stackSize =>
    rcases settings_cases micros stackSize with ⟨answer, made⟩ | ⟨f, fault⟩
    · cases answer with
      | error e => exact .inr (.inl ⟨.refused e, by simp [examine, made]⟩)
      | ok config =>
        cases held : h.owner with
        | none => exact .inr (.inr ⟨.install config, by simp [examine, made, held], .inl rfl⟩)
        | some owner =>
          by_cases same : owner = caller
          · subst same
            have whole : ({ h with owner := some owner } : Host κ) = h := by rw [← held]
            exact .inr (.inr ⟨.install config, by simp [examine, made, held, whole], .inr rfl⟩)
          · refine .inr (.inl ⟨.refused .foreignThread, ?_⟩)
            simp [examine, made, held, same]
    · exact .inl ⟨f, by simp [examine, fault]⟩
  | current => exact .inr (.inl ⟨_, rfl⟩)
  | total => exact .inr (.inl ⟨_, rfl⟩)
  | spawn | terminate | block | resume | sleep | quantaOf | stateOf =>
    exact .inr (request _ rfl)

/-- A call that is let through belongs to the owner and leaves it in charge. -/
theorem call_owner {caller : OsThread} {call : Call Tid} {r : Request} {report : Report κ}
    (passed : h.examine caller call = .ok (.request r, { h with owner := some caller }))
    (called : h.call objections prime caller call = .ok report) :
    report.host.owner = some caller := by
  rw [Host.call, passed, ok_bind] at called
  exact carryOut_owner called

end RoundRobin.Host
