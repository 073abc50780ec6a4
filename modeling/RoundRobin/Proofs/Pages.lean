import RoundRobin.Config
import RoundRobin.Proofs.Checked
import Mathlib.Order.Bounds.Basic

/-!
# Whole pages

Sizes of stacks are rounded twice: when they are set, and when a mapping is asked for. Both times
the result is the least number of whole pages, one at least, that holds what was asked for. That
alone makes rounding monotone and idempotent, so the second time changes nothing.
-/

namespace RoundRobin

def wholePages (bytes page : Nat) : Set Nat := {n | 0 < n ∧ page ∣ n ∧ bytes ≤ n}

variable {bytes page n : Nat}

theorem wholePages_least (bytes : Nat) (positive : 0 < page) :
    IsLeast (wholePages bytes page) (max ((bytes + page - 1) / page) 1 * page) := by
  refine ⟨⟨?_, Nat.dvd_mul_left .., ?_⟩, ?_⟩
  · exact Nat.mul_pos (Nat.lt_of_lt_of_le Nat.zero_lt_one (Nat.le_max_right ..)) positive
  · have quotient := Nat.lt_div_mul_add (a := bytes + page - 1) positive
    have enough : (bytes + page - 1) / page * page ≤ max ((bytes + page - 1) / page) 1 * page :=
      Nat.mul_le_mul_right page (Nat.le_max_left ..)
    omega
  · rintro m ⟨nonzero, ⟨k, rfl⟩, holds⟩
    rw [Nat.mul_comm page k] at nonzero holds ⊢
    refine Nat.mul_le_mul_right page (Nat.max_le.mpr ⟨?_, Nat.pos_of_mul_pos_right nonzero⟩)
    refine Nat.le_of_lt_succ ((Nat.div_lt_iff_lt_mul positive).mpr ?_)
    rw [Nat.succ_mul]
    omega

/-- What is whole is the least that holds itself. -/
theorem wholePages_self (whole : n ∈ wholePages bytes page) : IsLeast (wholePages n page) n :=
  ⟨⟨whole.1, whole.2.1, Nat.le_refl n⟩, fun _ holds => holds.2.2⟩

theorem wholePages_subset {fewer more : Nat} (le : fewer ≤ more) :
    wholePages more page ⊆ wholePages fewer page :=
  fun _ whole => ⟨whole.1, whole.2.1, Nat.le_trans le whole.2.2⟩

/-- Whoever asks for something needs a page anyway. -/
theorem wholePages_eq (asked : 0 < bytes) : wholePages bytes page = {n | page ∣ n ∧ bytes ≤ n} := by
  ext n
  exact ⟨fun whole => whole.2, fun whole => ⟨Nat.lt_of_lt_of_le asked whole.2, whole⟩⟩

/-- Rounding gives the least size, unless that is no word. -/
theorem roundToPages_eq (positive : 0 < page) (least : IsLeast (wholePages bytes page) n) :
    roundToPages bytes page = if n ≤ wordMax then .ok n else .error (.fault .mulOverflow) := by
  rw [least.unique (wholePages_least bytes positive), roundToPages, Checked.divCeil,
    if_neg (Nat.ne_of_gt positive), ok_bind, Checked.mul]

theorem roundToPages_eq_ok_iff (positive : 0 < page) :
    roundToPages bytes page = .ok n ↔ IsLeast (wholePages bytes page) n ∧ n ≤ wordMax := by
  have least := wholePages_least bytes positive
  constructor
  · intro rounded
    rw [roundToPages_eq positive least] at rounded
    split at rounded
    · next inWord =>
      cases rounded
      exact ⟨least, inWord⟩
    · cases rounded
  · rintro ⟨least, inWord⟩
    rw [roundToPages_eq positive least, if_pos inWord]

/-- What needs less is rounded to no more. -/
theorem roundToPages_mono (positive : 0 < page) {fewer more rounded : Nat} (le : fewer ≤ more)
    (fits : roundToPages more page = .ok rounded) :
    ∃ less, roundToPages fewer page = .ok less ∧ less ≤ rounded := by
  obtain ⟨least, inWord⟩ := (roundToPages_eq_ok_iff positive).mp fits
  have lower := wholePages_least fewer positive
  have below := least.mono lower (wholePages_subset le)
  exact ⟨_, (roundToPages_eq_ok_iff positive).mpr ⟨lower, Nat.le_trans below inWord⟩, below⟩

theorem roundToPages_idem (positive : 0 < page) (rounded : roundToPages bytes page = .ok n) :
    roundToPages n page = .ok n := by
  obtain ⟨least, inWord⟩ := (roundToPages_eq_ok_iff positive).mp rounded
  exact (roundToPages_eq_ok_iff positive).mpr ⟨wholePages_self least.1, inWord⟩

theorem pageSize_pos : 0 < pageSize := by decide

namespace Config

/-- The size that is set depends on what is asked for and on nothing that was set before. -/
theorem withStackSize_eq (c : Config)
    (least : IsLeast (wholePages (max bytes minStackSize) pageSize) n) :
    c.withStackSize bytes =
      if n ≤ wordMax then .ok { c with stackSize := n } else .error (.fault .mulOverflow) := by
  rw [withStackSize, roundToPages_eq pageSize_pos least]
  split <;> rfl

/-- A size that was set is one that can be set, and is then what it is. -/
theorem withStackSize_again (c : Config)
    (least : IsLeast (wholePages (max bytes minStackSize) pageSize) n) (inWord : n ≤ wordMax) :
    ({ c with stackSize := n } : Config).withStackSize n = .ok { c with stackSize := n } := by
  have enough : max n minStackSize = n :=
    Nat.max_eq_left (Nat.le_trans (Nat.le_max_right ..) least.1.2.2)
  rw [withStackSize_eq _ (by rw [enough]; exact wholePages_self least.1), if_pos inWord]

end Config

end RoundRobin
