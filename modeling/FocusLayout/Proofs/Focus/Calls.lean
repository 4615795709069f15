import FocusLayout.Proofs.Focus.Poll
import FocusLayout.Proofs.Layout.Calls

/-!
# The calls of one poll

What a poll asks of the backend, which keeps the record of its calls (`Backend.noting`). A poll that sees a change to
a window with a layout asks what bringing that layout into effect asks, whatever the backend answers, and nothing
besides (`calls_poll_change`): the names for the announcement are known by then. Any other poll asks nothing
(`calls_poll_idle`).
-/

namespace FocusLayout.Focus

open Layout (Backend Switcher)
open Layout.Backend (Noted Call)

variable {S : Type}

/-- A source over a device whose calls are noted; asking it is no call. -/
def Source.onNoted (source : Source S) : Source (Noted S) :=
  source.within Noted.device fun s noted => { noted with device := s }

namespace Watcher

variable {config : Config} {backend : Backend S} {source : Source S} {w : Watcher (Noted S)} {window : Window} {g : Nat}

theorem calls_asked : (w.asked source.onNoted).bench.calls = w.bench.calls := rfl

/-- A quiet poll calls nothing. -/
theorem calls_poll_quiet (h : Quiet source.onNoted w) :
    ((poll config backend.noting source.onNoted).run w).state.bench.calls = w.bench.calls := by
  rw [(run_poll_quiet config backend.noting h).1, calls_asked]

/-- Switching for a window calls what bringing its layout into effect calls. -/
theorem calls_switchFor (hl : config.layoutFor window = some g) :
    ((switchFor config backend.noting window).run w).state.bench.calls =
      ((Switcher.apply backend.noting g).run w.bench).state.calls := by
  cases ha : ((Switcher.apply backend.noting g).run w.bench).result with
  | error f => rw [run_switchFor_failed hl ha]
  | ok switched =>
    cases switched with
    | false => rw [run_switchFor_same hl ha]
    | true =>
      obtain ⟨text, -, hs⟩ := run_switchFor_switched hl ha
      rw [hs]
      exact Switcher.calls_names_of_apply_true ha

/-- A poll that sees a change to a window with a layout brings that layout into effect. -/
theorem calls_poll_change (backend : Backend S) (ha : source.onNoted.answerTo w = .ok (some window))
    (hc : isChange w.seen (some window) = true) (hl : config.layoutFor window = some g) :
    ((poll config backend.noting source.onNoted).run w).state.bench.calls =
      ((Switcher.apply backend.noting g).run (w.asked source.onNoted).bench).state.calls := by
  rw [run_poll_window ha hc]
  exact calls_switchFor (w := (w.asked source.onNoted).remember (some window)) hl

/-- A poll that sees no change to a window with a layout calls nothing. -/
theorem calls_poll_idle (backend : Backend S)
    (h : ∀ window, source.onNoted.answerTo w = .ok (some window) → isChange w.seen (some window) = true →
      config.layoutFor window = none) :
    ((poll config backend.noting source.onNoted).run w).state.bench.calls = w.bench.calls := by
  rcases change_or_quiet source.onNoted w with ⟨observed, ha, hc⟩ | hq
  · cases observed with
    | none => rw [run_poll_lost ha hc]; rfl
    | some window =>
      rw [run_poll_window ha hc, run_switchFor_none (h window ha hc)]
      rfl
  · exact calls_poll_quiet hq

end Watcher

end FocusLayout.Focus
