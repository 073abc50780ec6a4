import RoundRobin.Preemption.Signal

/-!
# What the operations of the signal leave alone
-/

namespace RoundRobin.Signal

variable {α : Type} {s s' : Signal α}

theorem rearm_eq (s : Signal α) : ∃ period, s.rearm = { s with period } := by
  unfold rearm
  split
  · exact ⟨_, rfl⟩
  · exact ⟨s.period, rfl⟩

theorem disarm_gate (s : Signal α) : s.disarm.gate = s.gate := by
  unfold disarm
  split <;> rfl

theorem disarm_pending (s : Signal α) (quiet : s.pending = false) : s.disarm.pending = false := by
  unfold disarm
  split
  · rfl
  · exact quiet

/-- A delivery takes the waiting signal and changes nothing else. -/
theorem deliver_eq (s : Signal α) :
    ∃ delivery, s.deliver = (delivery, { s with pending := false }) := by
  unfold deliver
  split
  · exact ⟨_, rfl⟩
  · exact ⟨_, rfl⟩
  · split <;> exact ⟨_, rfl⟩

theorem raiseElsewhere_eq (raised : s.raiseElsewhere = some s') :
    ∃ pending forwarded, s' = { s with pending, forwarded } := by
  unfold raiseElsewhere at raised
  split at raised
  · simp at raised
  · exact ⟨_, _, (Option.some.inj raised).symm⟩
  · exact ⟨_, _, (Option.some.inj raised).symm⟩

end RoundRobin.Signal
