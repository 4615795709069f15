import FocusLayout.Proofs.Focus.Observation
import FocusLayout.Proofs.Layout.Parts

/-!
# Watching on a part of a device

A watcher whose source and backend have only a part of a device does there what it does on the part alone
(`Watcher.part`), and leaves the rest of the device as it is: it takes in an answer so (`observe_within`), and so it
polls, once or often (`poll_within`, `pollTimes_within`).
-/

namespace FocusLayout.Focus

open Layout (Backend Bench Switcher)

variable {S T : Type}

namespace Watcher

/-- The watcher over a part of the device. -/
def part (get : T → S) (w : Watcher T) : Watcher S := ⟨w.seen, w.bench.part get⟩

/-- The watcher over the whole device, after work on the part. -/
def putPart (put : S → T → T) (worked : Watcher S) (w : Watcher T) : Watcher T :=
  ⟨worked.seen, worked.bench.putPart put w.bench⟩

section Parts

variable {get : T → S} {put : S → T → T}

theorem isPart_watcher (h : Step.IsPart get put) : Step.IsPart (part get) (putPart put) where
  get_put worked w := congrArg (Watcher.mk worked.seen) ((Layout.isPart_bench h).get_put worked.bench w.bench)
  put_get w := congrArg (Watcher.mk w.seen) ((Layout.isPart_bench h).put_get w.bench)
  put_put worked worked' w :=
    congrArg (Watcher.mk worked.seen) ((Layout.isPart_bench h).put_put worked.bench worked'.bench w.bench)

theorem onBench_within {α : Type} {t : Step (Bench S) α} {t' : Step (Bench T) α}
    (ht : t' = t.within (Bench.part get) (Bench.putPart put)) :
    onBench t' = (onBench t).within (part get) (putPart put) := by
  subst ht
  rfl

variable (config : Config) (backend : Backend S)

theorem switchFor_within (h : Step.IsPart get put) (window : Window) :
    switchFor config (backend.within get put) window =
      (switchFor config backend window).within (part get) (putPart put) := by
  have hp := isPart_watcher h
  unfold switchFor
  cases config.layoutFor window with
  | none => exact hp.say _ _ _
  | some g =>
    refine hp.bind (Step.IsPart.attempt (onBench_within (Switcher.apply_within h backend g))) fun answer => ?_
    rcases answer with f | _ | _
    · exact Step.IsPart.ite (hp.say _ _ _) (hp.fail f)
    · exact hp.pure ()
    · exact hp.bind (onBench_within (Switcher.describe_within h backend g)) fun _ => hp.say _ _ _

/-- An answer is taken in on a part of a device as on that part alone. -/
theorem observe_within (h : Step.IsPart get put) (answer : Answer) :
    observe config (backend.within get put) answer =
      (observe config backend answer).within (part get) (putPart put) := by
  have hp := isPart_watcher h
  cases answer with
  | error f => exact Step.IsPart.ite (hp.bind (hp.say _ _ _) fun _ => hp.pure none) (hp.fail f)
  | ok observed =>
    refine Step.IsPart.bind_state fun w => Step.IsPart.ite (hp.bind (hp.say _ _ _) fun _ => ?_) (hp.pure none)
    -- the device is not touched where the observation is remembered
    refine hp.bind (Step.IsPart.update fun w => ?_) fun _ => ?_
    · exact congrArg (Watcher.mk _) ((Layout.isPart_bench h).put_get w.bench).symm
    · cases observed with
      | none => exact hp.pure _
      | some window => exact hp.bind (switchFor_within config backend h window) fun _ => hp.pure _

variable (source : Source S)

/-- A poll of a source that has the same part. -/
theorem poll_within (h : Step.IsPart get put) :
    poll config (backend.within get put) (source.within get put) =
      (poll config backend source).within (part get) (putPart put) := by
  have hasked : onBench (Layout.onDevice (source.within get put).activeWindow) =
      (onBench (Layout.onDevice source.activeWindow)).within (part get) (putPart put) :=
    onBench_within (Layout.onDevice_within source.activeWindow)
  exact (isPart_watcher h).bind (Step.IsPart.attempt hasked) fun answer => observe_within config backend h answer

theorem pollOn_within (h : Step.IsPart get put) :
    pollOn config (backend.within get put) (source.within get put) =
      (pollOn config backend source).within (part get) (putPart put) := by
  have hp := isPart_watcher h
  refine hp.bind (Step.IsPart.attempt (poll_within config backend source h)) fun result => ?_
  cases result with
  | error f => exact hp.say _ _ _
  | ok event => exact hp.pure ()

/-- A number of polls, by one poll after another. -/
theorem pollTimes_within (h : Step.IsPart get put) (polls : Nat) :
    pollTimes config (backend.within get put) (source.within get put) polls =
      (pollTimes config backend source polls).within (part get) (putPart put) := by
  induction polls with
  | zero => exact (isPart_watcher h).pure ()
  | succ n ih => exact (isPart_watcher h).bind (pollOn_within config backend source h) fun _ => ih

end Parts

end Watcher

end FocusLayout.Focus
