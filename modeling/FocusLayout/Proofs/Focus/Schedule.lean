import FocusLayout.Focus.Schedule
import Mathlib.Data.Nat.Find
import Mathlib.Order.WellFounded

/-!
# The schedule of a watch without end

`Schedule.wait` is when a watch comes to wait for each of its polls and when that poll is due, if the polls last as long
as a function says; poll `k` starts at `start k` and ends at `finish k`.

- polls follow each other (`finish_le_start`), and poll `k` does not start before millisecond `k` (`le_start`);
- for a period longer than `grace` a poll is due at a multiple of it (`dvd_due`), and the next one at the first multiple
  after its start (`due_succ`), however late it was. So each period has at most one start (`start_div_strictMono`), and
  no multiple at which the watch is free goes by without one (`exists_start_eq`).
-/

namespace FocusLayout.Focus.Schedule

/-- When a watch comes to wait for a poll, and when that poll is due. -/
structure Wait where
  since : Nat
  due : Nat

/-- A poll starts when it is due and the watch waits for it. -/
def Wait.start (t : Wait) : Nat := max t.since t.due

/-- The wait for poll `k` of a watch whose poll `i` lasts `lasts i`. -/
def wait (period : Nat) (lasts : Nat → Nat) : Nat → Wait
  | 0 => ⟨0, 0⟩
  | k + 1 =>
    let before := wait period lasts k
    ⟨before.start + lasts k, nextDue period before.due before.start⟩

/-- When poll `k` starts. -/
def start (period : Nat) (lasts : Nat → Nat) (k : Nat) : Nat := (wait period lasts k).start

/-- When poll `k` ends. -/
def finish (period : Nat) (lasts : Nat → Nat) (k : Nat) : Nat := start period lasts k + lasts k

variable {period : Nat} {lasts : Nat → Nat}

/-! ## Any period -/

@[simp] theorem start_zero : start period lasts 0 = 0 := rfl

/-- A poll waits for the one before it and for its own time. -/
theorem start_succ (k : Nat) :
    start period lasts (k + 1) = max (finish period lasts k) (wait period lasts (k + 1)).due := rfl

theorem due_le_start (k : Nat) : (wait period lasts k).due ≤ start period lasts k := Nat.le_max_right _ _

theorem start_le_finish (k : Nat) : start period lasts k ≤ finish period lasts k := Nat.le_add_right _ _

theorem start_monotone : Monotone (start period lasts) :=
  monotone_nat_of_le_succ fun k => (start_le_finish k).trans (Nat.le_max_left _ _)

/-- A poll ends before any later one starts. -/
theorem finish_le_start {i j : Nat} (h : i < j) : finish period lasts i ≤ start period lasts j :=
  (Nat.le_max_left _ _).trans (start_monotone h)

theorem finish_monotone : Monotone (finish period lasts) :=
  monotone_nat_of_le_succ fun k => (finish_le_start (Nat.lt_succ_self k)).trans (start_le_finish _)

/-- The next poll is due later. -/
theorem due_lt_nextDue {due begun : Nat} (h : 0 < period) : due < nextDue period due begun := by
  unfold nextDue
  split
  · have := Nat.mod_lt (begun - due) h
    omega
  · omega

/-- Each poll is due at least a millisecond after the one before. -/
theorem le_due (h : 0 < period) : ∀ k, k ≤ (wait period lasts k).due
  | 0 => Nat.le_refl _
  | k + 1 => Nat.lt_of_le_of_lt (le_due h k) (due_lt_nextDue h)

theorem le_start (h : 0 < period) (k : Nat) : k ≤ start period lasts k :=
  (le_due h k).trans (due_le_start k)

/-! ## Periods longer than the grace -/

/-- The poll after one that was due at a multiple of the period is due at the first multiple after the start of that
one, whether or not it was late enough to be noticed. -/
theorem nextDue_eq {due begun : Nat} (h : grace < period) (hd : period ∣ due) (hle : due ≤ begun) :
    nextDue period due begun = (begun / period + 1) * period := by
  obtain ⟨m, rfl⟩ := hd
  have hmod := Nat.div_add_mod begun period
  rw [Nat.add_mul, Nat.mul_comm (begun / period), Nat.one_mul]
  unfold nextDue
  split <;> rename_i hlate
  · -- what the start is late by and the start itself leave the same rest
    rw [Nat.sub_mul_mod hle]
    have := Nat.mod_lt begun (Nat.zero_lt_of_lt h)
    omega
  · -- a start within the grace is still in the period that the poll was due in
    have hdiv : begun / period = m := by
      refine Nat.div_eq_of_lt_le ?_ ?_
      · rw [Nat.mul_comm]; exact hle
      · rw [Nat.add_mul, Nat.mul_comm m]; omega
    rw [hdiv]

theorem dvd_due (h : grace < period) : ∀ k, period ∣ (wait period lasts k).due
  | 0 => Nat.dvd_zero period
  | k + 1 => by
    have hnext : (wait period lasts (k + 1)).due = _ := nextDue_eq h (dvd_due h k) (due_le_start k)
    rw [hnext]
    exact Nat.dvd_mul_left _ _

/-- A poll is due at the first multiple of the period after the start of the one before. -/
theorem due_succ (h : grace < period) (k : Nat) :
    (wait period lasts (k + 1)).due = (start period lasts k / period + 1) * period :=
  nextDue_eq h (dvd_due h k) (due_le_start k)

/-- A poll starts at a multiple of the period, or as soon as the one before it ends. -/
theorem dvd_start_or_eq_finish (h : grace < period) (k : Nat) :
    period ∣ start period lasts k ∨ ∃ i, k = i + 1 ∧ start period lasts k = finish period lasts i := by
  cases k with
  | zero => exact .inl (Nat.dvd_zero period)
  | succ i =>
    rw [start_succ]
    rcases Nat.le_total (finish period lasts i) (wait period lasts (i + 1)).due with hle | hle
    · rw [Nat.max_eq_right hle]
      exact .inl (dvd_due h (i + 1))
    · exact .inr ⟨i, rfl, Nat.max_eq_left hle⟩

/-- No two polls start in one period. -/
theorem start_div_strictMono (h : grace < period) : StrictMono fun k => start period lasts k / period := by
  refine strictMono_nat_of_lt_succ fun k => ?_
  have hdue : (wait period lasts (k + 1)).due ≤ start period lasts (k + 1) := due_le_start _
  rw [due_succ h] at hdue
  exact (Nat.le_div_iff_mul_le (Nat.zero_lt_of_lt h)).mpr hdue

/-- A poll starts at a multiple of the period at which none runs. -/
theorem exists_start_eq (h : grace < period) {m : Nat}
    (hfree : ∀ k, m * period ≤ start period lasts k ∨ finish period lasts k ≤ m * period) :
    ∃ k, start period lasts k = m * period := by
  have hreach : ∃ k, m * period ≤ start period lasts k :=
    ⟨m, (Nat.le_div_iff_mul_le (Nat.zero_lt_of_lt h)).mp (start_div_strictMono h).le_apply⟩
  -- the first poll that does not start before that time
  obtain ⟨k, hk, hfirst⟩ : ∃ k, m * period ≤ start period lasts k ∧ ∀ j < k, start period lasts j < m * period :=
    ⟨Nat.find hreach, Nat.find_spec hreach, fun _ hj => Nat.lt_of_not_le (Nat.find_min hreach hj)⟩
  refine ⟨k, Nat.le_antisymm ?_ hk⟩
  cases k with
  | zero => exact Nat.zero_le _
  | succ j =>
    -- the poll before it has ended by then, and it was due by then
    have hstart := hfirst j (Nat.lt_succ_self j)
    have hended := (hfree j).resolve_left (Nat.not_le.mpr hstart)
    rw [start_succ, due_succ h]
    refine Nat.max_le.mpr ⟨hended, Nat.mul_le_mul_right period ?_⟩
    exact (Nat.div_lt_iff_lt_mul (Nat.zero_lt_of_lt h)).mpr hstart

/-- If no poll lasts longer than the period, poll `k` starts at `k` periods. -/
theorem start_eq_mul (h : grace < period) : ∀ k, (∀ i < k, lasts i ≤ period) → start period lasts k = k * period
  | 0, _ => (Nat.zero_mul period).symm
  | k + 1, hshort => by
    have hstart := start_eq_mul h k fun i hi => hshort i (Nat.lt_succ_of_lt hi)
    have hlasts := hshort k (Nat.lt_succ_self k)
    rw [start_succ, due_succ h, finish, hstart, Nat.mul_div_cancel k (Nat.zero_lt_of_lt h), Nat.add_mul, Nat.one_mul]
    exact Nat.max_eq_right (Nat.add_le_add_left hlasts _)

end FocusLayout.Focus.Schedule
