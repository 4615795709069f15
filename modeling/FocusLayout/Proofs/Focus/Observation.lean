import FocusLayout.Focus.Watcher

/-!
# When an observation is news

An observation is a window, or none. `Differ` tells two observations apart and `News` compares an observation with
the last one among the answers before it, failures skipped.

The watcher compares with the window it remembers instead (`Watcher.isChange`). Observations that do not differ have
the same `marks`, so not differing is an equivalence, and a remembered window that does not differ from the last
observation tells the same news (`isChange_iff_news`).
-/

namespace FocusLayout.Focus

/-- What a source answers. -/
abbrev Answer := Except Failure (Option Window)

/-- Two observations differ if one is a window and the other is none, or if id, class or title differ. -/
def Differ : Option Window → Option Window → Prop
  | none, none => False
  | some a, some b => a.id ≠ b.id ∨ a.className ≠ b.className ∨ a.title ≠ b.title
  | _, _ => True

/-- The last observation among the answers so far. -/
def lastObservation (answers : List Answer) : Option (Option Window) :=
  (answers.filterMap Except.toOption).getLast?

/-- An observation is news if it is the first one or differs from the last one. -/
def News (earlier : List Answer) (observed : Option Window) : Prop :=
  ∀ last, lastObservation earlier = some last → Differ last observed

/-! ## Marks -/

/-- What two observations are told apart by. -/
def marks (observed : Option Window) : Option (Nat × String × String) :=
  observed.map fun w => (w.id, w.className, w.title)

theorem differ_iff (a b : Option Window) : Differ a b ↔ marks a ≠ marks b := by
  rcases a with _ | a <;> rcases b with _ | b
  · simp [Differ]
  · simp [Differ, marks]
  · simp [Differ, marks]
  · simp only [Differ, marks, Option.map_some, ne_eq, Option.some.injEq, Prod.mk.injEq,
      Classical.not_and_iff_not_or_not]

/-- Windows differ as observations when they differ as windows. -/
theorem differ_some_iff (a b : Window) : Differ (some a) (some b) ↔ a.differs b = true := by
  simp [Differ, Window.differs, or_assoc]

/-- A remembered observation makes news of what it differs from. -/
theorem isChange_iff (seen : Option (Option Window)) (observed : Option Window) :
    Watcher.isChange seen observed = true ↔ seen.map marks ≠ some (marks observed) := by
  rcases seen with _ | _ | before
  · simp [Watcher.isChange]
  · cases observed <;> simp [Watcher.isChange, marks]
  · cases observed with
    | none => simp [Watcher.isChange, marks]
    | some w =>
      show before.differs w = true ↔ _
      rw [← differ_some_iff, differ_iff]
      simp

/-- A remembered observation is compared with by `Differ`. -/
theorem isChange_some_iff (remembered observed : Option Window) :
    Watcher.isChange (some remembered) observed = true ↔ Differ remembered observed := by
  rw [isChange_iff, differ_iff, Option.map_some, ne_eq, Option.some.injEq]

theorem news_iff (earlier : List Answer) (observed : Option Window) :
    News earlier observed ↔ (lastObservation earlier).map marks ≠ some (marks observed) := by
  unfold News
  cases lastObservation earlier with
  | none => simp
  | some last => simp [differ_iff]

/-- A remembered window with the marks of the last observation tells the same news. -/
theorem isChange_iff_news {seen : Option (Option Window)} {earlier : List Answer}
    (h : seen.map marks = (lastObservation earlier).map marks) (observed : Option Window) :
    Watcher.isChange seen observed = true ↔ News earlier observed := by
  rw [isChange_iff, news_iff, h]

/-! ## The last observation -/

@[simp] theorem lastObservation_error (earlier : List Answer) (f : Failure) :
    lastObservation (earlier ++ [.error f]) = lastObservation earlier := by
  simp [lastObservation, Except.toOption]

@[simp] theorem lastObservation_ok (earlier : List Answer) (observed : Option Window) :
    lastObservation (earlier ++ [.ok observed]) = some observed := by
  simp [lastObservation, Except.toOption]

end FocusLayout.Focus
