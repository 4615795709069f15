import FocusLayout.Proofs.Focus.Events
import FocusLayout.Proofs.Focus.Recovery
import FocusLayout.Proofs.Layout.Honest

/-!
# What the watcher announces of a layout

The watcher announces a layout (`layoutLine`) once a switch says that it has switched. It describes the group that the
rule asks for, not the one that the lock came to (`run_switchFor_told`).

- `announced_of_poll`: on an honest backend an announced group is in effect, unless the same poll warns of another one;
- `apply_true_unless_diverted`: the same of the switch that it stands for;
- `announced_not_in_effect`: on a keyboard that ignores locks the watcher announces a layout that is not in effect.
-/

namespace FocusLayout.Focus.Watcher

open Layout (Backend Script Switcher divertedLine groupText)
open Layout.Backend (Exchange Recorded)

variable {S : Type}

/-- The line by which the watcher announces a layout for a window. -/
def layoutLine (layout : String) (window : Window) : Log.Entry :=
  ⟨.info, .watcher, s!"Раскладка {layout} для {window.text}"⟩

/-- The line announces a layout. -/
def IsLayoutLine (line : Log.Entry) : Prop :=
  ∃ layout window, line = layoutLine layout window

variable {config : Config} {backend : Backend S} {source : Source S} {I : S → Prop} {view : S → Nat}
  {window : Window} {w : Watcher S} {g : Nat} {line : Log.Entry}

/-! ## Other lines -/

theorem IsLayoutLine.level (h : IsLayoutLine line) : line.level = .info := by
  obtain ⟨layout, window, rfl⟩ := h
  rfl

theorem IsLayoutLine.not_isEventLine (h : IsLayoutLine line) : ¬IsEventLine line := by
  obtain ⟨layout, window, rfl⟩ := h
  exact not_isEventLine_layout layout window

/-- A switcher announces nothing by itself. -/
theorem IsLayoutLine.writes (h : IsLayoutLine line) (hl : Switcher.Writes backend line) : backend.Writes line := by
  obtain ⟨layout, window, rfl⟩ := h
  rcases hl with horigin | hwrites
  · cases horigin
  · exact hwrites

/-! ## Switching for a window -/

/-- After a switch the group asked for is described by the names, which are known by then. -/
theorem run_switchFor_told (hl : config.layoutFor window = some g)
    (ha : ((Switcher.apply backend g).run w.bench).result = .ok true) :
    ∃ told, (switchFor config backend window).run w =
      ⟨.ok (), { w with bench := ((Switcher.apply backend g).run w.bench).state },
        ((Switcher.apply backend g).run w.bench).log ++ [layoutLine (groupText (.ok told) g) window]⟩ := by
  obtain ⟨told, hk⟩ := Switcher.known_of_apply_true ha
  obtain ⟨text, htext, hrun⟩ := run_switchFor_switched hl ha
  have hdescribed := (Switcher.describe_ends backend g ((Switcher.apply backend g).run w.bench).state).1
  rw [Switcher.run_names_known hk] at hdescribed hrun
  obtain rfl := Except.ok.inj (htext.symm.trans hdescribed)
  exact ⟨told, hrun⟩

/-- A layout that has been announced for the window is the one of its rule, and it is in effect or another one has been
warned of. -/
theorem announced_of_switchFor (h : backend.Honest I view) (hI : I w.bench.device)
    (hl : line ∈ ((switchFor config backend window).run w).log) (hline : IsLayoutLine line)
    (hwrites : ¬backend.Writes line) :
    let ran := (switchFor config backend window).run w
    let effective := view ran.state.bench.device
    ∃ g told, config.layoutFor window = some g ∧ line = layoutLine (groupText (.ok told) g) window ∧
      (effective = g ∨ divertedLine g effective ∈ ran.log) := by
  cases hg : config.layoutFor window with
  | none =>
    rw [run_switchFor_none hg, List.mem_singleton] at hl
    cases hl ▸ hline.level
  | some g =>
    have hnot : line ∉ ((Switcher.apply backend g).run w.bench).log := fun hmem =>
      hwrites (hline.writes (Switcher.logs_apply g w.bench line hmem))
    cases ha : ((Switcher.apply backend g).run w.bench).result with
    | error f =>
      rw [run_switchFor_failed hg ha] at hl
      dsimp only at hl
      rcases List.mem_append.mp hl with hl | hl
      · exact absurd hl hnot
      · split at hl
        · cases List.mem_singleton.mp hl ▸ hline.level
        · cases hl
    | ok switched =>
      cases switched with
      | false =>
        rw [run_switchFor_same hg ha] at hl
        exact absurd hl hnot
      | true =>
        obtain ⟨told, hrun⟩ := run_switchFor_told (w := w) hg ha
        obtain ⟨e, d, -, rfl, hwarned⟩ := Switcher.apply_true h hI ⟨ha, rfl⟩
        rw [hrun] at hl ⊢
        have hlast : line = layoutLine (groupText (.ok told) g) window := by
          rcases List.mem_append.mp hl with hl | hl
          · exact absurd hl hnot
          · exact List.mem_singleton.mp hl
        exact ⟨g, told, rfl, hlast, hwarned.imp_right fun hmem => List.mem_append_left _ hmem⟩

/-! ## One poll -/

/-- A layout that a poll announces is that of the window it has been answered, and it is in effect or the poll warns of
another one. -/
theorem announced_of_poll (h : backend.Honest I view) (hsource : source.activeWindow.Preserves I)
    (hI : I w.bench.device) (hl : line ∈ ((poll config backend source).run w).log) (hline : IsLayoutLine line)
    (hanswer : line ∉ (source.activeWindow.run w.bench.device).log) (hwrites : ¬backend.Writes line) :
    let ran := (poll config backend source).run w
    let effective := view ran.state.bench.device
    ∃ window g told, source.answerTo w = .ok (some window) ∧ config.layoutFor window = some g ∧
      line = layoutLine (groupText (.ok told) g) window ∧
      (effective = g ∨ divertedLine g effective ∈ ran.log) := by
  rcases change_or_quiet source w with ⟨observed, ha, hc⟩ | hquiet
  · cases observed with
    | none =>
      rw [run_poll_lost ha hc] at hl
      rcases List.mem_append.mp hl with hl | hl
      · exact absurd hl hanswer
      · exact absurd ⟨_, List.mem_singleton.mp hl⟩ hline.not_isEventLine
    | some window =>
      rw [run_poll_window ha hc] at hl ⊢
      have hswitch : line ∈
          ((switchFor config backend window).run ((w.asked source).remember (some window))).log := by
        rcases List.mem_append.mp hl with hl | hl
        · exact absurd hl hanswer
        · rcases List.mem_cons.mp hl with rfl | hl
          · exact absurd ⟨_, rfl⟩ hline.not_isEventLine
          · exact hl
      have hasked : I ((w.asked source).remember (some window)).bench.device := hsource _ hI
      obtain ⟨g, told, hg, hlast, hwarned⟩ := announced_of_switchFor h hasked hswitch hline hwrites
      exact ⟨window, g, told, ha, hg, hlast, hwarned.imp_right fun hmem =>
        List.mem_append_right _ (List.mem_cons_of_mem _ hmem)⟩
  · obtain ⟨-, -, rest, hlog, hrest⟩ := run_poll_quiet config backend hquiet
    rw [hlog] at hl
    rcases List.mem_append.mp hl with hl | hl
    · exact absurd hl hanswer
    · cases (hrest line hl).symm.trans hline.level

/-- **A switch is what it says, unless it was diverted.** Take any honest backend. If bringing a group into effect says
that nothing was switched, the group was in effect and still is, and the current group is all that was asked for. If it
says that it has switched, its last call was to lock the group, and what the answer told is in effect: that group, or
another one that a warning tells. So whenever a poll announces a layout, it is that of the rule for the window with the
focus, and it is in effect, or a warning of the same poll tells the group that is. -/
theorem switch_true_unless_diverted {b : Backend S} (h : b.Honest I view) :
    (∀ (bench : Layout.Bench (Recorded S)) (g : Nat), I bench.device.device →
      let ran := (Switcher.apply b.recording g).run bench
      let effective := view ran.state.device.device
      (ran.result = .ok false → view bench.device.device = g ∧ effective = g ∧
        ran.state.device.exchanges = bench.device.exchanges ++ [.current (.ok g)]) ∧
      (ran.result = .ok true →
        (∃ before, ran.state.device.exchanges = bench.device.exchanges ++ before ++ [.lock g (.ok effective)]) ∧
        (effective = g ∨ divertedLine g effective ∈ ran.log))) ∧
    ∀ (config : Config) (source : Source S) (w : Watcher S), source.activeWindow.Preserves I → I w.bench.device →
      let ran := (poll config b source).run w
      let effective := view ran.state.bench.device
      ∀ line ∈ ran.log, IsLayoutLine line → line ∉ (source.activeWindow.run w.bench.device).log → ¬b.Writes line →
        ∃ window g told, source.answerTo w = .ok (some window) ∧ config.layoutFor window = some g ∧
          line = layoutLine (groupText (.ok told) g) window ∧
          (effective = g ∨ divertedLine g effective ∈ ran.log) := by
  refine ⟨fun bench g hI => ⟨fun hfalse => ?_, fun htrue => ?_⟩, fun config source w hsource hI line hl hline => ?_⟩
  · obtain ⟨hbefore, hafter⟩ := Switcher.apply_false h.recording hI ⟨hfalse, rfl⟩
    exact ⟨hbefore, hafter, Switcher.exchanges_apply_false hfalse⟩
  · exact Switcher.exchanges_apply_true h hI htrue
  · exact announced_of_poll h hsource hI hl hline

/-! ## A keyboard that ignores locks -/

/-- A keyboard of two groups on which every lock comes to the first one. -/
def stuck : Script := { Script.default with names := ["us", "ru"], effective := some 0 }

/-- The same window whenever it is asked for. -/
def chat : Source S where
  name := "chat"
  activeWindow := pure (some ⟨10, "tg", "Tg", "telegram"⟩)
  delay _ := 0

/-- Both the switch and the poll that announces it warn of the group that is in effect. -/
theorem switch_true_unless_diverted_stuck :
    let applied := (Switcher.apply Script.backend.recording 1).run (.fresh [] ⟨stuck, []⟩)
    let polled := (poll groupOne Script.backend chat).run (fresh [] stuck)
    Script.backend.Honest (fun _ => True) Script.group ∧ applied.result = .ok true ∧
      divertedLine 1 0 ∈ applied.log ∧
      layoutLine "1 (ru)" ⟨10, "tg", "Tg", "telegram"⟩ ∈ polled.log ∧ divertedLine 1 0 ∈ polled.log := by
  intro applied polled
  have law := switch_true_unless_diverted Script.honest_backend
  have htrue : applied.result = .ok true := rfl
  obtain ⟨-, happlied⟩ := (law.1 (.fresh [] ⟨stuck, []⟩) 1 trivial).2 htrue
  have hline : layoutLine "1 (ru)" ⟨10, "tg", "Tg", "telegram"⟩ ∈ polled.log := by decide +kernel
  obtain ⟨window, g, told, ha, hg, -, hpolled⟩ := law.2 groupOne chat (fresh [] stuck) (fun _ _ => trivial) trivial _
    hline ⟨_, _, rfl⟩ List.not_mem_nil (Script.not_writes_backend _)
  cases ha
  obtain rfl : 1 = g := Option.some.inj hg
  have hgroup : (0 : Nat) ≠ 1 := by decide
  exact ⟨Script.honest_backend, htrue, happlied.resolve_left hgroup, hline, hpolled.resolve_left hgroup⟩

/-- The switch to group 1 says that it has switched, and the watcher announces it, but group 0 is in effect. -/
theorem announced_not_in_effect :
    let applied := (Switcher.apply Script.backend 1).run (.fresh [] stuck)
    let polled := (poll groupOne Script.backend chat).run (fresh [] stuck)
    Script.backend.Honest (fun _ => True) Script.group ∧
      applied.result = .ok true ∧ applied.state.device.group ≠ 1 ∧
      groupOne.layoutFor ⟨10, "tg", "Tg", "telegram"⟩ = some 1 ∧
      layoutLine (groupText (.ok ["us", "ru"]) 1) ⟨10, "tg", "Tg", "telegram"⟩ ∈ polled.log ∧
      polled.state.bench.device.group ≠ 1 := by
  intro applied polled
  exact ⟨Script.honest_backend, rfl, by decide, rfl, by decide +kernel, by decide⟩

end FocusLayout.Focus.Watcher
