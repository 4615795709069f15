import FocusLayout.Proofs.Focus.Observation
import FocusLayout.Proofs.Focus.Poll
import Mathlib.Data.List.Induction

/-!
# Runs of polls

`Reached start earlier w`: a watcher that starts as `start` has been polled once for each entry of `earlier`, which is
how that poll found it, and is about to be polled as `w`. Before each poll others may change the device (`outside`).

- a run can be cut before its last poll (`Reached.last`);
- the remembered window lags behind the last observation but has its marks, whatever failed on the way
  (`Reached.seen_marks`), so that a change is news of the run (`Reached.isChange_iff`);
- a remembered window stays until a poll sees a change, which takes an observation that differs from it
  (`Reached.seen_between`, `Reached.seen_of_same`);
- after an observation the polls are quiet until another one differs from it (`Reached.quiet_of_unchanged`).
-/

namespace FocusLayout.Focus

open Layout (Backend Switcher)

variable {S T : Type}

/-! ## Devices of two parts -/

/-- A source that has the first part of a device to itself. -/
def Source.onFirst (source : Source S) : Source (S × T) :=
  source.within Prod.fst fun s device => (s, device.2)

/-- A backend that has the second part of a device to itself. -/
def onSecond (backend : Backend T) : Backend (S × T) :=
  backend.within Prod.snd fun t device => (device.1, t)

namespace Watcher

/-! ## Runs -/

/-- A watcher that has observed nothing yet, beside a device of which nothing has been read. -/
def fresh (cycle : List Nat) (device : S) : Watcher S :=
  ⟨none, ⟨⟨cycle, none⟩, device⟩⟩

/-- Every watcher begins fresh. -/
theorem start_fresh (backend : Backend S) (source : Source S) (cycle : List Nat) (device : S) :
    ((do start source (← Switcher.start backend cycle) : Step S (Watcher S)).run device).result =
      .ok (fresh cycle device) := rfl

/-- The watcher over another device. -/
def withDevice (device : S) (w : Watcher S) : Watcher S :=
  { w with bench := { w.bench with device := device } }

@[simp] theorem withDevice_seen (device : S) (w : Watcher S) : (w.withDevice device).seen = w.seen := rfl

/-- How a run of polls has found the watcher so far, and how the next poll finds it. -/
inductive Reached (config : Config) (backend : Backend S) (source : Source S) (outside : S → S → Prop)
    (start : Watcher S) : List (Watcher S) → Watcher S → Prop
  | first {device : S} : outside start.bench.device device →
      Reached config backend source outside start [] (start.withDevice device)
  | next {earlier : List (Watcher S)} {w : Watcher S} {device : S} :
      Reached config backend source outside start earlier w →
      outside ((poll config backend source).run w).state.bench.device device →
      Reached config backend source outside start (earlier ++ [w])
        (((poll config backend source).run w).state.withDevice device)

variable {config : Config} {backend : Backend S} {source : Source S} {outside : S → S → Prop}
  {start w v : Watcher S} {before between earlier : List (Watcher S)}

/-! ## What a poll remembers -/

theorem keeps_seen_onBench {α : Type} (t : Step (Layout.Bench S) α) : (onBench t).Keeps Watcher.seen := fun _ => rfl

/-- Switching for a window does not touch what is remembered. -/
theorem keeps_seen_switchFor (window : Window) : (switchFor config backend window).Keeps Watcher.seen := by
  unfold switchFor
  cases config.layoutFor window with
  | none => exact Step.Keeps.say _ _ _
  | some g =>
    refine (keeps_seen_onBench _).attempt.bind fun answer => ?_
    rcases answer with f | _ | _
    · dsimp only
      split
      · exact Step.Keeps.say _ _ _
      · exact Step.Keeps.fail _
    · exact Step.Keeps.pure ()
    · exact (keeps_seen_onBench _).bind fun _ => Step.Keeps.say _ _ _

/-- A quiet poll leaves the remembered window. -/
theorem seen_poll_quiet (h : Quiet source w) : ((poll config backend source).run w).state.seen = w.seen := by
  rw [(run_poll_quiet config backend h).1]
  rfl

/-- A change is remembered, even if switching for it fails. -/
theorem seen_poll_change {observed : Option Window} (h : source.answerTo w = .ok observed)
    (hc : isChange w.seen observed = true) : ((poll config backend source).run w).state.seen = some observed := by
  cases observed with
  | none => rw [run_poll_lost h hc]; rfl
  | some window =>
    rw [run_poll_window h hc]
    exact keeps_seen_switchFor window _

/-- After an observation the remembered window has its marks, even if it is an older one. -/
theorem marks_seen_poll {observed : Option Window} (h : source.answerTo w = .ok observed) :
    ((poll config backend source).run w).state.seen.map marks = some (marks observed) := by
  cases hc : isChange w.seen observed with
  | true =>
    rw [seen_poll_change h hc]
    rfl
  | false =>
    rw [seen_poll_quiet (quiet_of_same h hc)]
    have hs := mt (isChange_iff w.seen observed).mpr (by rw [hc]; exact Bool.false_ne_true)
    exact Classical.not_not.mp hs

/-- An observation that yields no event is no change. -/
theorem isChange_of_ignored {observed : Option Window} (h : source.answerTo w = .ok observed)
    (hr : ((poll config backend source).run w).result = .ok none) : isChange w.seen observed = false := by
  refine Bool.eq_false_iff.mpr fun hc => ?_
  rcases result_poll_change config backend h hc with he | ⟨f, he⟩
  · rw [hr] at he; cases he
  · rw [hr] at he; cases he

/-- A poll is quiet if what it observes does not differ from the remembered window. -/
theorem quiet_of_seen {remembered : Option Window} (h : w.seen = some remembered)
    (hs : ∀ observed, source.answerTo w = .ok observed → ¬Differ remembered observed) : Quiet source w := by
  intro observed ha
  rw [h]
  exact Bool.eq_false_iff.mpr fun hc => hs observed ha ((isChange_some_iff _ _).mp hc)

/-! ## Cutting a run -/

namespace Reached

/-- A run may begin without anything done from outside. -/
theorem start_undisturbed (ho : ∀ s, outside s s) : Reached config backend source outside start [] start :=
  .first (ho _)

/-- A run may go on without anything done from outside. -/
theorem next_undisturbed (ho : ∀ s, outside s s) (h : Reached config backend source outside start earlier w) :
    Reached config backend source outside start (earlier ++ [w]) ((poll config backend source).run w).state :=
  .next h (ho _)

/-- A run of at least one poll comes from a shorter one. -/
theorem last (h : Reached config backend source outside start (earlier ++ [w]) v) :
    Reached config backend source outside start earlier w ∧
      ∃ device, outside ((poll config backend source).run w).state.bench.device device ∧
        v = ((poll config backend source).run w).state.withDevice device := by
  -- the inversion needs a variable for the polls: only `next` can have ended in `w`
  generalize he : earlier ++ [w] = polls at h
  cases h with
  | first ho => simp at he
  | next hr ho =>
    obtain ⟨rfl, hw⟩ := List.append_inj' he rfl
    obtain rfl := List.singleton_inj.mp hw
    exact ⟨hr, _, ho, rfl⟩

/-! ## The remembered window -/

variable {cycle : List Nat} {device : S}

/-- The remembered window has the marks of the last observation of the run. -/
theorem seen_marks (h : Reached config backend source outside (fresh cycle device) earlier w) :
    w.seen.map marks = (lastObservation (earlier.map source.answerTo)).map marks := by
  induction h with
  | first ho => rfl
  | @next earlier w device _ ho ih =>
    rw [List.map_append, List.map_singleton, withDevice_seen]
    cases ha : source.answerTo w with
    | error f => rw [seen_poll_quiet (quiet_of_error ha), lastObservation_error]; exact ih
    | ok observed =>
      rw [lastObservation_ok]
      exact marks_seen_poll ha

/-- The watcher sees a change exactly when the observation is news of the run. -/
theorem isChange_iff (h : Reached config backend source outside (fresh cycle device) earlier w)
    (observed : Option Window) :
    isChange w.seen observed = true ↔ News (earlier.map source.answerTo) observed :=
  isChange_iff_news h.seen_marks observed

/-- A remembered window stays as long as no poll sees a change. -/
theorem seen_between {remembered : Option Window}
    (h : Reached config backend source outside start (before ++ w :: between) v)
    (hw : ((poll config backend source).run w).state.seen = some remembered)
    (hs : ∀ u ∈ between, u.seen = some remembered → Quiet source u) : v.seen = some remembered := by
  -- a run grows at its end, so the polls in between are taken off from there
  induction between using List.reverseRecOn generalizing v with
  | nil =>
    obtain ⟨-, device, -, rfl⟩ := h.last
    exact hw
  | append_singleton between u ih =>
    rw [← List.cons_append, ← List.append_assoc] at h
    obtain ⟨hu, device, -, rfl⟩ := h.last
    have hseen : u.seen = some remembered := ih hu fun x hx => hs x (List.mem_append_left _ hx)
    rw [withDevice_seen, ← hseen]
    exact seen_poll_quiet (hs u (by simp) hseen)

/-- A remembered window stays until an observation differs from it. -/
theorem seen_of_same {remembered : Option Window}
    (h : Reached config backend source outside start (before ++ w :: between) v)
    (hw : ((poll config backend source).run w).state.seen = some remembered)
    (hs : ∀ u ∈ between, ∀ observed, source.answerTo u = .ok observed → ¬Differ remembered observed) :
    v.seen = some remembered :=
  h.seen_between hw fun u hu hseen => quiet_of_seen hseen (hs u hu)

/-- The next poll is quiet too if nothing it observes differs from the remembered window either. -/
theorem seen_and_quiet {remembered : Option Window}
    (h : Reached config backend source outside start (before ++ w :: between) v)
    (hw : ((poll config backend source).run w).state.seen = some remembered)
    (hs : ∀ u ∈ between ++ [v], ∀ observed, source.answerTo u = .ok observed → ¬Differ remembered observed) :
    v.seen = some remembered ∧ Quiet source v := by
  have hseen : v.seen = some remembered := h.seen_of_same hw fun u hu => hs u (List.mem_append_left _ hu)
  exact ⟨hseen, quiet_of_seen hseen (hs v (by simp))⟩

/-- While nothing is observed that differs from an observation, the polls are quiet. -/
theorem quiet_of_unchanged {observed : Option Window}
    (h : Reached config backend source outside start (before ++ w :: between) v)
    (ha : source.answerTo w = .ok observed)
    (hs : ∀ u ∈ between ++ [v], ∀ observed', source.answerTo u = .ok observed' → ¬Differ observed observed') :
    Quiet source v := by
  have hseen : ((poll config backend source).run w).state.seen.map marks = some (marks observed) := marks_seen_poll ha
  obtain ⟨remembered, hw, hmarks⟩ := Option.map_eq_some_iff.mp hseen
  -- the remembered window tells the same differences as the observed one
  refine (h.seen_and_quiet hw fun u hu observed' ho => ?_).2
  rw [differ_iff, hmarks, ← differ_iff]
  exact hs u hu observed' ho

end Reached

end Watcher

end FocusLayout.Focus
