import FocusLayout.Focus.Source

/-!
# A list of windows that goes round

The source of a dry run keeps its list and the position of the next window. A call steps the position on by one, modulo
the length (`run_next`), so after any number of calls it is that number modulo the length (`after_eq`), and
inside the list. An empty list has no position inside and gives no window (`run_next_empty`).
-/

namespace FocusLayout.Focus.Cycling

/-- A list of windows after a number of calls from its beginning. -/
def after (windows : List (Option Window)) : Nat → Cycling
  | 0 => ofList windows
  | k + 1 => (next.run (after windows k)).state

variable {windows : List (Option Window)} {c : Cycling}

/-- A call at a position inside the list gives the window there and steps on. -/
theorem run_next (h : c.index < c.windows.length) :
    (next.run c).result = .ok (c.windows.get ⟨c.index, h⟩) ∧
      (next.run c).state = ⟨c.windows, (c.index + 1) % c.windows.length⟩ := by
  unfold next
  rw [Step.run_bind_state, List.getElem?_eq_getElem h]
  dsimp only
  rw [Step.run_bind_update]
  cases hwindow : c.windows[c.index] with
  | none => simp [hwindow]
  | some w => simp [hwindow]

/-- A call on an empty list gives no window and stays. -/
theorem run_next_empty (h : c.windows = []) : (next.run c).result = .ok none ∧ (next.run c).state = c := by
  unfold next
  rw [Step.run_bind_state, h]
  exact ⟨rfl, rfl⟩

theorem after_empty (k : Nat) : after [] k = ofList [] := by
  induction k with
  | zero => rfl
  | succ k ih => rw [after, ih, (run_next_empty rfl).2]

/-- The list stays, and the position is the number of calls modulo its length. -/
theorem after_eq (h : 0 < windows.length) (k : Nat) : after windows k = ⟨windows, k % windows.length⟩ := by
  induction k with
  | zero => rw [Nat.zero_mod]; rfl
  | succ k ih =>
    have hindex : (after windows k).index < (after windows k).windows.length := by
      rw [ih]
      exact Nat.mod_lt k h
    rw [after, (run_next hindex).2, ih, Nat.mod_add_mod]

/-- **The list goes round.** However often the source of a dry run has been called, the next call succeeds. Of an empty
list it gives no window. Of any other list the position is inside, and the call gives the entry there, which is that of
the number of calls modulo the length. -/
theorem dryRun_goes_round (windows : List (Option Window)) (k : Nat) :
    let c := after windows k
    let answer := (Source.dryRun.activeWindow.run c).result
    c.windows = windows ∧ (windows = [] → answer = .ok none) ∧
      ∀ h : 0 < windows.length,
        c.index < windows.length ∧ answer = .ok (windows.get ⟨k % windows.length, Nat.mod_lt k h⟩) := by
  intro c answer
  rcases Nat.eq_zero_or_pos windows.length with hempty | hpos
  · obtain rfl := List.length_eq_zero_iff.mp hempty
    have hc : c = ofList [] := after_empty k
    have hwindows : c.windows = [] := congrArg Cycling.windows hc
    exact ⟨hwindows, fun _ => (run_next_empty hwindows).1, fun h => absurd h (Nat.lt_irrefl 0)⟩
  · have hc : c = ⟨windows, k % windows.length⟩ := after_eq hpos k
    have hindex : k % windows.length < windows.length := Nat.mod_lt k hpos
    refine ⟨by rw [hc], fun hnil => absurd (congrArg List.length hnil) (Nat.ne_of_gt hpos), fun _ => ?_⟩
    refine ⟨by rw [hc]; exact hindex, ?_⟩
    show (next.run c).result = _
    rw [hc]
    exact (run_next (c := ⟨windows, k % windows.length⟩) hindex).1

/-- The sixth call on a list of three gives the last entry again, here no window. -/
theorem dryRun_goes_round_twice :
    (Source.dryRun.activeWindow.run
      (after [some ⟨1, "one", "A", "a"⟩, some ⟨2, "two", "B", "b"⟩, none] 5)).result = .ok none :=
  ((dryRun_goes_round _ 5).2.2 (by decide)).2

end FocusLayout.Focus.Cycling
