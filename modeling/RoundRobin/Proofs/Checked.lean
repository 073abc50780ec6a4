import RoundRobin.Checked

/-!
# Checked operations inside their domain

A checked operation that stays in its domain answers with the plain result. The statements below
give each domain, and the one rule by which a chain of such operations is followed.
-/

namespace RoundRobin

universe u v

@[simp]
theorem ok_bind {ε α β : Type u} (a : α) (f : α → Except ε β) :
    ((Except.ok a : Except ε α) >>= f) = f a := rfl

@[simp]
theorem error_bind {ε α β : Type u} (e : ε) (f : α → Except ε β) :
    ((Except.error e : Except ε α) >>= f) = .error e := rfl

@[simp]
theorem pure_eq_ok {ε α : Type u} (a : α) : (pure a : Except ε α) = .ok a := rfl

theorem bind_eq_ok {ε α β : Type u} {x : Except ε α} {f : α → Except ε β} {r : β} :
    x >>= f = .ok r ↔ ∃ a, x = .ok a ∧ f a = .ok r := by
  cases x with
  | error e => simp
  | ok a => simp

theorem map_eq_error {ε α β : Type u} {x : Except ε α} {f : α → β} {e : ε} :
    x.map f = .error e ↔ x = .error e := by
  cases x with
  | error d => simp [Except.map]
  | ok a => simp [Except.map]

/-- A list of computations that all succeed gives the list of their results. -/
theorem mapM_eq_ok {α : Type v} {ε β : Type u} {f : α → Except ε β} {g : α → β} {xs : List α}
    (each : ∀ x ∈ xs, f x = .ok (g x)) : xs.mapM f = .ok (xs.map g) := by
  induction xs with
  | nil => rfl
  | cons x xs ih =>
    have first := each x List.mem_cons_self
    have others := ih fun y hy => each y (List.mem_cons_of_mem x hy)
    simp [List.mapM_cons, first, others]

namespace Checked

theorem add_eq_ok {a b : Nat} (h : a + b ≤ wordMax) : add a b = .ok (a + b) := if_pos h

theorem add_overflow {a b : Nat} (h : wordMax < a + b) :
    add a b = .error (.fault .addOverflow) := if_neg (by omega)

theorem sub_eq_ok {a b : Nat} (h : b ≤ a) : sub a b = .ok (a - b) := if_pos h

theorem rem_eq_ok {a b : Nat} (h : 0 < b) : rem a b = .ok (a % b) := if_neg (by omega)

variable {α : Type u} {xs : List α} {i : Nat}

theorem get_eq_ok {x : α} (h : xs[i]? = some x) : get xs i = .ok x := by
  simp [get, h]

theorem set_eq_ok (h : i < xs.length) (x : α) : set xs i x = .ok (xs.set i x) := if_pos h

theorem getElem?_of_set {x : α} {ys : List α} (h : set xs i x = .ok ys) : ys[i]? = some x := by
  unfold set at h
  split at h
  · next inside =>
    obtain rfl := Except.ok.inj h
    exact List.getElem?_set_self inside
  · simp at h

end Checked

end RoundRobin
