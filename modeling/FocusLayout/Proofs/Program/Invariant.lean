import FocusLayout.Proofs.Focus.Invariant
import FocusLayout.Proofs.Program.Parts

/-!
# What the calls preserve, the commands preserve

The commands touch their device only by calling their source and backend. So a condition on the device that every call
preserves is preserved by each command, however it ends (`preserves_focus`, `preserves_layout`, `preserves_watch`, ...).
-/

namespace FocusLayout.Program

open CommandLine (LayoutChange)
open Focus (Source Watcher)
open Layout (Backend Bench Switcher)
open Step (Preserves)

variable {S : Type} {I : S → Prop} (config : Config) {source : Source S} {backend : Backend S}

theorem preserves_focus (h : source.activeWindow.Preserves I) : (focus source).Preserves I := by
  refine h.bind fun window => ?_
  cases window with
  | none => exact .pure _
  | some w => exact .pure _

variable (h : backend.Preserves I)

include h

theorem preserves_change (c : LayoutChange) : (change backend c).Preserves (Bench.On I) := by
  cases c with
  | keep => exact Switcher.preserves_current h
  | set group => exact Switcher.preserves_set h group
  | next => exact Switcher.preserves_next h

theorem preserves_layout (c : LayoutChange) : (layout config backend c).Preserves I := by
  refine Switcher.preserves_begin (.bind (preserves_change h c) fun group => ?_)
  exact (Switcher.preserves_describe h group).bind fun _ => .pure _

theorem preserves_keyboardState (keyboard : Layout.Keyboard) : (keyboardState config backend keyboard).Preserves I := by
  refine Switcher.preserves_begin (.bind (Switcher.preserves_describe h _) fun group => ?_)
  exact (Switcher.preserves_describe h _).bind fun locked => .pure _

theorem preserves_watch (hsource : source.activeWindow.Preserves I) (polls : Nat) :
    (watch config source backend polls).Preserves I := by
  have hpolling : ∀ w : Watcher S, (polling config source backend polls w).Preserves I := by
    intro w
    have hwatching : (Watcher.announce config >>= fun _ => Watcher.pollTimes config backend source polls).Preserves
        (Watcher.On I) := (Preserves.say _ _ _).bind fun _ => Watcher.preserves_pollTimes config h hsource polls
    exact hwatching.within (fun _ hs => hs) fun _ _ _ hw => hw
  rw [watch_eq]
  refine (Preserves.say _ _ _).bind fun _ => (Preserves.say _ _ _).bind fun _ => (Preserves.say _ _ _).bind fun _ => ?_
  refine Preserves.state.bind fun s => (hpolling _).bind fun _ => ?_
  exact (Preserves.say _ _ _).bind fun _ => .say _ _ _

end FocusLayout.Program
