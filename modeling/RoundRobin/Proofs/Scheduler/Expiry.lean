import RoundRobin.Proofs.Scheduler.Decision

/-!
# One expiry after another

An expiry goes through a table and wakes whoever sleeps past a deadline that has been reached.
Nothing is assumed of the table here: numbers may repeat, awake threads may have deadlines left from
earlier, and sleepers may have none. Two expiries, the second no earlier than the first, do what the
second alone does. Whom the first one wakes is awake for the second, and whom it leaves alone is
found as they were.
-/

namespace RoundRobin

namespace Thread

variable {κ : Type} {t : Thread κ} {a b now : Nat}

def Lapsed (now : Nat) (t : Thread κ) : Prop :=
  (t.state = .sleeping ∨ t.state = .sleepBlocked) ∧ 0 < t.wakeAt ∧ t.wakeAt ≤ now

instance (now : Nat) (t : Thread κ) : Decidable (t.Lapsed now) :=
  inferInstanceAs (Decidable (_ ∧ _ ∧ _))

def report (t : Thread κ) : Wakeup :=
  if t.state = .sleepBlocked then .stillBlocked t.tid else .ready t.tid

def awoken (t : Thread κ) : Thread κ :=
  { t with state := if t.state = .sleepBlocked then .blocked else .ready, wakeAt := 0 }

theorem isDue_iff_lapsed : t.isDue now ↔ t.Lapsed now := by
  rw [isDue_iff, ThreadState.isSleeping_iff, Lapsed, Nat.pos_iff_ne_zero]
  constructor
  · rintro ⟨set, reached, asleep⟩
    exact ⟨asleep, set, reached⟩
  · rintro ⟨asleep, set, reached⟩
    exact ⟨set, reached, asleep⟩

theorem wake_eq (t : Thread κ) : t.wake = (t.report, t.awoken) := by
  by_cases blocked : t.state = .sleepBlocked
  · simp [wake, report, awoken, blocked]
  · rw [wake, report, awoken, if_neg blocked, if_neg blocked]
    split
    · next blocked' => exact absurd blocked' blocked
    · rfl

theorem expired_eq_ite (now : Nat) (t : Thread κ) :
    t.expired now = if t.Lapsed now then t.awoken else t := by
  by_cases lapsed : t.Lapsed now
  · rw [if_pos lapsed, expired, if_pos (isDue_iff_lapsed.mpr lapsed), wake_eq]
  · rw [if_neg lapsed, expired_of_not_due fun due => lapsed (isDue_iff_lapsed.mp due)]

theorem Lapsed.mono (le : a ≤ b) (lapsed : t.Lapsed a) : t.Lapsed b :=
  ⟨lapsed.1, lapsed.2.1, Nat.le_trans lapsed.2.2 le⟩

theorem not_lapsed_awoken (now : Nat) (t : Thread κ) : ¬ t.awoken.Lapsed now :=
  fun lapsed => Nat.lt_irrefl 0 lapsed.2.1

/-- A second expiry finds due whoever was due for it and not for the first. -/
theorem lapsed_expired_iff :
    (t.expired a).Lapsed b ↔ t.Lapsed b ∧ ¬ t.Lapsed a := by
  rw [expired_eq_ite]
  by_cases early : t.Lapsed a
  · rw [if_pos early]
    exact ⟨fun late => absurd late (not_lapsed_awoken b t), fun late => absurd early late.2⟩
  · rw [if_neg early]
    exact ⟨fun late => ⟨late, early⟩, fun late => late.1⟩

/-- One thread, expired twice. -/
theorem expired_expired (le : a ≤ b) : (t.expired a).expired b = t.expired b := by
  by_cases early : t.Lapsed a
  · rw [expired_eq_ite b t, if_pos (early.mono le), expired_eq_ite a t, if_pos early,
      expired_eq_ite, if_neg (not_lapsed_awoken b t)]
  · rw [expired_eq_ite a t, if_neg early]

end Thread

variable {κ : Type} {a b : Nat}

/-- An expiry reports whom it wakes, in the order of the table. -/
theorem expire_wakeups (now : Nat) (table : List (Thread κ)) :
    (expire now table).1 = (table.filter fun t => t.Lapsed now).map Thread.report := by
  induction table with
  | nil => rfl
  | cons t rest ih =>
    by_cases lapsed : t.Lapsed now
    · have due := Thread.isDue_iff_lapsed.mpr lapsed
      simp [expire, due, lapsed, ih, Thread.wake_eq]
    · have early : ¬ t.isDue now := fun due => lapsed (Thread.isDue_iff_lapsed.mp due)
      simp [expire, early, lapsed, ih]

/-- What an earlier expiry leaves to a later one is untouched by it. -/
theorem filter_lapsed_expired (a b : Nat) (table : List (Thread κ)) :
    (table.map (Thread.expired a)).filter (fun t => t.Lapsed b) =
      (table.filter fun t => t.Lapsed b).filter fun t => !decide (t.Lapsed a) := by
  induction table with
  | nil => rfl
  | cons t rest ih =>
    by_cases late : t.Lapsed b
    · by_cases early : t.Lapsed a
      · have woken : ¬ (t.expired a).Lapsed b :=
          fun left => (Thread.lapsed_expired_iff.mp left).2 early
        simp [late, early, woken, ih]
      · have same : t.expired a = t := by rw [Thread.expired_eq_ite, if_neg early]
        simp [late, early, same, ih]
    · have missed : ¬ (t.expired a).Lapsed b :=
        fun left => late (Thread.lapsed_expired_iff.mp left).1
      simp [late, missed, ih]

theorem expire_expire_table (le : a ≤ b) (table : List (Thread κ)) :
    (expire b (expire a table).2).2 = (expire b table).2 := by
  rw [expire_table, expire_table, expire_table, List.map_map]
  exact List.map_congr_left fun t _ => Thread.expired_expired le

/-- The later one reports whoever is due by then, except for those that were due before. -/
theorem expire_expire_wakeups (le : a ≤ b) (table : List (Thread κ)) :
    ((expire a table).1 ++ (expire b (expire a table).2).1).Perm (expire b table).1 := by
  have first : (table.filter fun t => t.Lapsed a) =
      (table.filter fun t => t.Lapsed b).filter fun t => t.Lapsed a := by
    rw [List.filter_filter]
    refine List.filter_congr fun t _ => ?_
    by_cases early : t.Lapsed a
    · simp [early, early.mono le]
    · simp [early]
  rw [expire_wakeups, expire_wakeups, expire_wakeups, expire_table, filter_lapsed_expired,
    first, ← List.map_append]
  exact (List.filter_append_perm _ _).map _

theorem expire_again (now : Nat) (table : List (Thread κ)) :
    expire now (expire now table).2 = ([], (expire now table).2) := by
  refine Prod.ext ?_ (expire_expire_table (Nat.le_refl now) table)
  rw [expire_wakeups, expire_table, filter_lapsed_expired, List.filter_filter]
  simp

/-- Two expiries in a row leave the table that the later one alone leaves, and report together what
it reports. Each one reports the sleepers whose deadlines it has reached, in table order, changes
those and nobody else, in state and deadline only, and has nothing left to do at once after. -/
theorem expiries_compose (table : List (Thread κ)) :
    (∀ a b, a ≤ b → (expire b (expire a table).2).2 = (expire b table).2 ∧
      ((expire a table).1 ++ (expire b (expire a table).2).1).Perm (expire b table).1) ∧
    ∀ now,
      (expire now table).1 = (table.filter fun t => t.Lapsed now).map Thread.report ∧
      (expire now table).2.length = table.length ∧
      (∀ (i : Nat) (t : Thread κ), table[i]? = some t → (expire now table).2[i]? =
        some (if t.Lapsed now
          then { t with state := if t.state = .sleepBlocked then .blocked else .ready, wakeAt := 0 }
          else t)) ∧
      expire now (expire now table).2 = ([], (expire now table).2) := by
  refine ⟨fun a b le => ⟨expire_expire_table le table, expire_expire_wakeups le table⟩,
    fun now => ⟨expire_wakeups now table, ?_, fun i t slot => ?_, expire_again now table⟩⟩
  · rw [expire_table, List.length_map]
  · rw [expire_table, List.getElem?_map, slot, Option.map_some, Thread.expired_eq_ite]
    rfl

/-- Two slots of one number, a deadline on an awake thread, a sleeper without one and a sleeper that
has time left. What two expiries report comes in another order than what one reports. -/
theorem expiries_compose_repeated :
    ∃ table : List (Thread Unit), table.map Thread.tid = [3, 3, 1, 0, 4] ∧ 2 ≤ 5 ∧
      (expire 2 table).1 = [.stillBlocked 3] ∧
      (expire 5 (expire 2 table).2).1 = [.ready 3] ∧
      (expire 5 table).1 = [.ready 3, .stillBlocked 3] ∧
      (expire 5 (expire 2 table).2).2 = (expire 5 table).2 ∧
      ((expire 2 table).1 ++ (expire 5 (expire 2 table).2).1).Perm (expire 5 table).1 ∧
      table[1]? = some ⟨3, .sleepBlocked, none, none, some 8, 6, 2⟩ ∧
      (expire 5 table).2[1]? = some ⟨3, .blocked, none, none, some 8, 6, 0⟩ := by
  let table : List (Thread Unit) :=
    [⟨3, .sleeping, some (), none, some 7, 4, 5⟩, ⟨3, .sleepBlocked, none, none, some 8, 6, 2⟩,
      ⟨1, .running, none, none, none, 1, 1⟩, ⟨0, .sleeping, none, none, none, 2, 0⟩,
      ⟨4, .sleeping, none, none, some 9, 3, 9⟩]
  obtain ⟨twice, once⟩ := expiries_compose table
  obtain ⟨same, together⟩ := twice 2 5 (by decide)
  obtain ⟨_, _, slots, _⟩ := once 5
  exact ⟨table, rfl, by decide, rfl, rfl, rfl, same, together, rfl, slots 1 _ rfl⟩

end RoundRobin
