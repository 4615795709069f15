import FocusLayout.Layout.Script
import FocusLayout.Proofs.Focus.Run
import FocusLayout.Proofs.Layout.Failing

/-!
# When a poll fails

A poll can fail in its source (`result_poll_eq_error_iff_of_quiet`) and in the switch for a window
(`result_poll_eq_error_iff_of_window`). Failures that pass are only warned about, in either place: of the source they
leave nothing to return, of the switch they leave the event. `poll_fails_iff` lists the failures that are left.
-/

namespace FocusLayout.Focus.Watcher

open Layout (Backend Script Switcher)

variable {S : Type} {config : Config} {backend : Backend S} {source : Source S} {w : Watcher S} {f : Failure}

/-- A failure that passes is not the result, any other one is. -/
theorem passed_eq_error_iff {α : Type} {a : α} {failure : Failure} :
    (if failure.isProtocol then .ok a else .error failure : Except Failure α) = .error f ↔
      f.isProtocol = false ∧ failure = f := by
  constructor
  · intro h
    split at h <;> rename_i hpasses
    · cases h
    · obtain rfl := Except.error.inj h
      exact ⟨Bool.eq_false_iff.mpr hpasses, rfl⟩
  · rintro ⟨hpasses, rfl⟩
    rw [hpasses]
    rfl

/-- Switching for a window fails with the failures to bring its layout into effect that do not pass. -/
theorem result_switchFor_eq_error_iff {window : Window} :
    ((switchFor config backend window).run w).result = .error f ↔
      f.isProtocol = false ∧ ∃ g, config.layoutFor window = some g ∧ Switcher.FailsToApply backend g w.bench f := by
  cases hl : config.layoutFor window with
  | none => simp [run_switchFor_none hl]
  | some g =>
    simp only [Option.some.injEq, exists_eq_left', ← Switcher.result_apply_eq_error_iff]
    cases ha : ((Switcher.apply backend g).run w.bench).result with
    | ok switched =>
      cases switched with
      | false => simp [run_switchFor_same hl ha]
      | true =>
        obtain ⟨text, -, hrun⟩ := run_switchFor_switched hl ha
        simp [hrun]
    | error failure =>
      rw [run_switchFor_failed hl ha, Except.error.injEq]
      exact passed_eq_error_iff

/-- A poll that is shown another window fails if switching for it does. -/
theorem result_poll_eq_error_iff_of_window {window : Window} (ha : source.answerTo w = .ok (some window))
    (hc : isChange w.seen (some window) = true) :
    ((poll config backend source).run w).result = .error f ↔
      f.isProtocol = false ∧
        ∃ g, config.layoutFor window = some g ∧ Switcher.FailsToApply backend g (w.asked source).bench f := by
  rw [run_poll_window ha hc]
  dsimp only
  refine Iff.trans ?_ (result_switchFor_eq_error_iff (w := (w.asked source).remember (some window)))
  cases ((switchFor config backend window).run ((w.asked source).remember (some window))).result with
  | error failure => simp [Except.map]
  | ok u => simp [Except.map]

/-- A poll that is shown nothing new fails only with its source. -/
theorem result_poll_eq_error_iff_of_quiet (h : Quiet source w) :
    ((poll config backend source).run w).result = .error f ↔ f.isProtocol = false ∧ source.answerTo w = .error f := by
  cases ha : source.answerTo w with
  | ok observed => simp [run_poll_same ha (h observed ha)]
  | error failure =>
    rw [result_poll_of_error ha, Except.error.injEq]
    exact passed_eq_error_iff

/-- **When a poll fails.** A poll fails with the failures that do not pass of its source, if that fails; or, if it is
shown another window that has a layout, of bringing this layout into effect. Neither place fails it with a protocol
failure: from the source it leaves no event, from the switch it leaves the event. -/
theorem poll_fails_iff (config : Config) (backend : Backend S) (source : Source S) (w : Watcher S) :
    let result := ((poll config backend source).run w).result
    let bench := (w.asked source).bench
    (∀ f, result = .error f ↔
      f.isProtocol = false ∧
        (source.answerTo w = .error f ∨
          ∃ window g, source.answerTo w = .ok (some window) ∧ isChange w.seen (some window) = true ∧
            config.layoutFor window = some g ∧ Switcher.FailsToApply backend g bench f)) ∧
    (∀ request, result ≠ .error (.protocol request)) ∧
    (∀ request, source.answerTo w = .error (.protocol request) → result = .ok none) ∧
    ∀ window g request, source.answerTo w = .ok (some window) → isChange w.seen (some window) = true →
      config.layoutFor window = some g → Switcher.FailsToApply backend g bench (.protocol request) →
      result = .ok (some (.changed window)) := by
  intro result bench
  have hfails : ∀ f, result = .error f ↔
      f.isProtocol = false ∧
        (source.answerTo w = .error f ∨
          ∃ window g, source.answerTo w = .ok (some window) ∧ isChange w.seen (some window) = true ∧
            config.layoutFor window = some g ∧ Switcher.FailsToApply backend g bench f) := by
    intro f
    rcases change_or_quiet source w with ⟨observed, ha, hc⟩ | hquiet
    · cases observed with
      | none =>
        have hlost : result = .ok (some .lost) := congrArg Outcome.result (run_poll_lost ha hc)
        simp [hlost, ha]
      | some window =>
        refine (result_poll_eq_error_iff_of_window ha hc).trans (and_congr_right fun _ => ?_)
        simp [ha, hc, bench]
    · refine (result_poll_eq_error_iff_of_quiet hquiet).trans (and_congr_right fun _ => (or_iff_left ?_).symm)
      rintro ⟨window, g, ha, hc, -⟩
      cases hc.symm.trans (hquiet _ ha)
  refine ⟨hfails, fun request h => ?_, fun request ha => ?_, fun window g request ha hc hl hf => ?_⟩
  · cases ((hfails _).mp h).1
  · exact result_poll_of_error ha
  · exact result_poll_failed ha hc hl (Switcher.result_apply_eq_error_iff.mpr hf)

/-- The layout of the window that is shown is the third, and there are two. -/
theorem poll_fails_iff_unavailable :
    let config : Config := Config.indexed { Config.default with rules := [⟨none, 2⟩] }
    let script : Script := { Script.default with names := ["us", "ru"] }
    let w : Watcher (List Reply × Script) := fresh [] ([⟨.ok (some ⟨10, "tg", "Tg", "telegram"⟩), 0⟩], script)
    ((poll config (onSecond Script.backend) Source.scripted.onFirst).run w).result =
      .error (.invalidLayout 2 2) := by
  intro config script w
  have hnames : ((Switcher.names (onSecond Script.backend)).run (w.asked Source.scripted.onFirst).bench).result =
      .ok ["us", "ru"] := rfl
  exact ((poll_fails_iff ..).1 _).mpr
    ⟨rfl, .inr ⟨_, 2, rfl, rfl, rfl, .set (c := 0) rfl (by decide) (.unavailable hnames (by decide))⟩⟩

end FocusLayout.Focus.Watcher
