import FocusLayout.Focus.Watcher
import FocusLayout.Proofs.Steps

/-!
# What the calls preserve, switching and watching preserve

A switcher and a watcher touch their device only by calling backend and source. So a condition on the device that every
call preserves is preserved by all that a switcher does (`preserves_set`, `preserves_next`, ...) and by any number of
polls of a watcher (`preserves_poll`, `preserves_pollTimes`).
-/

namespace FocusLayout

open Step (Preserves)

variable {S α : Type} {I : S → Prop}

namespace Layout

/-- Every call of the backend preserves the condition. -/
structure Backend.Preserves (I : S → Prop) (b : Backend S) : Prop where
  current : b.current.Preserves I
  lock (group : Nat) : (b.lock group).Preserves I
  names : b.names.Preserves I

/-- The device of the bench satisfies the condition. -/
def Bench.On (I : S → Prop) (bench : Bench S) : Prop := I bench.device

theorem preserves_onDevice {t : Step S α} (h : t.Preserves I) : (onDevice t).Preserves (Bench.On I) :=
  h.within (fun _ hs => hs) fun _ _ _ hx => hx

namespace Switcher

variable {b : Backend S} (h : b.Preserves I)

include h

theorem preserves_names : (names b).Preserves (Bench.On I) := by
  unfold names
  refine Preserves.state.bind fun bench => ?_
  cases bench.switcher.known with
  | some names => exact .pure names
  | none =>
    refine (preserves_onDevice h.names).bind fun names => (Preserves.say _ _ _).bind fun _ => ?_
    exact (Preserves.update fun _ hs => hs).bind fun _ => .pure names

theorem preserves_current : (current b).Preserves (Bench.On I) :=
  preserves_onDevice h.current

theorem preserves_available : (available b).Preserves (Bench.On I) :=
  (preserves_names h).bind fun _ => .pure _

theorem preserves_describe (group : Nat) : (describe b group).Preserves (Bench.On I) := by
  unfold describe
  refine (preserves_names h).attempt.bind fun answer => ?_
  cases answer with
  | error f => exact .pure _
  | ok names =>
    dsimp only
    split
    · exact .pure _
    · exact .pure _

theorem preserves_set (group : Nat) : (set b group).Preserves (Bench.On I) := by
  unfold set
  refine (preserves_available h).bind fun available => ?_
  split
  · exact .fail _
  · refine (preserves_onDevice (h.lock group)).bind fun effective => ?_
    split
    · exact (Preserves.say _ _ _).bind fun _ => .pure effective
    · exact .pure effective

theorem preserves_candidates : (candidates b).Preserves (Bench.On I) := by
  unfold candidates
  refine Preserves.state.bind fun bench => ?_
  dsimp only
  split
  · refine (preserves_names h).bind fun names => ?_
    split
    · exact .fail _
    · exact .pure _
  · exact .pure _

theorem preserves_next : (next b).Preserves (Bench.On I) := by
  unfold next
  refine (preserves_candidates h).bind fun candidates => (preserves_current h).bind fun current => ?_
  exact (Preserves.say _ _ _).bind fun _ => preserves_set h _

theorem preserves_apply (group : Nat) : (apply b group).Preserves (Bench.On I) := by
  unfold apply
  refine (preserves_current h).bind fun current => ?_
  split
  · exact .pure false
  · exact (preserves_set h group).bind fun _ => .pure true

omit h in
/-- A step with a switcher that begins now. -/
theorem preserves_begin {cycle : List Nat} {t : Step (Bench S) α} (ht : t.Preserves (Bench.On I)) :
    (begin b cycle t).Preserves I :=
  Preserves.bind (.bind (.say _ _ _) fun _ => .pure _) fun _ => ht.within (fun _ hs => hs) fun _ _ _ hx => hx

end Switcher

end Layout

namespace Focus.Watcher

open Layout (Backend Bench Switcher)

/-- The device of the watcher satisfies the condition. -/
def On (I : S → Prop) (w : Watcher S) : Prop := I w.bench.device

theorem preserves_onBench {t : Step (Bench S) α} (h : t.Preserves (Bench.On I)) : (onBench t).Preserves (On I) :=
  h.within (fun _ hs => hs) fun _ _ _ hx => hx

variable (config : Config) {backend : Backend S} {source : Source S} (h : backend.Preserves I)

include h

theorem preserves_switchFor (window : Window) : (switchFor config backend window).Preserves (On I) := by
  unfold switchFor
  cases config.layoutFor window with
  | none => exact .say _ _ _
  | some group =>
    refine (preserves_onBench (Switcher.preserves_apply h group)).attempt.bind fun answer => ?_
    rcases answer with f | _ | _
    · dsimp only
      split
      · exact .say _ _ _
      · exact .fail f
    · exact .pure ()
    · exact (preserves_onBench (Switcher.preserves_describe h group)).bind fun _ => .say _ _ _

theorem preserves_observe (answer : Except Failure (Option Window)) :
    (observe config backend answer).Preserves (On I) := by
  cases answer with
  | error f =>
    unfold observe
    dsimp only
    split
    · exact (Preserves.say _ _ _).bind fun _ => .pure none
    · exact .fail f
  | ok observed =>
    unfold observe
    refine Preserves.state.bind fun w => ?_
    split
    · refine (Preserves.say _ _ _).bind fun _ => Preserves.bind (.update fun w hw => ?_) fun _ => ?_
      · exact hw
      · cases observed with
        | none => exact .pure _
        | some window => exact (preserves_switchFor config h window).bind fun _ => .pure _
    · exact .pure none

variable (hsource : source.activeWindow.Preserves I)

include hsource

/-- What every call preserves, a poll preserves. -/
theorem preserves_poll : (poll config backend source).Preserves (On I) :=
  (preserves_onBench (Layout.preserves_onDevice hsource)).attempt.bind fun answer => preserves_observe config h answer

theorem preserves_pollOn : (pollOn config backend source).Preserves (On I) := by
  unfold pollOn
  refine (preserves_poll config h hsource).attempt.bind fun result => ?_
  cases result with
  | error f => exact .say _ _ _
  | ok event => exact .pure ()

/-- What every call preserves, a number of polls preserves. -/
theorem preserves_pollTimes (polls : Nat) : (pollTimes config backend source polls).Preserves (On I) := by
  induction polls with
  | zero => exact .pure ()
  | succ n ih => exact (preserves_pollOn config h hsource).bind fun _ => ih

end Focus.Watcher

end FocusLayout
