import FocusLayout.Proofs.Focus.Run
import FocusLayout.Proofs.Layout.Faithful

/-!
# The layout follows the rules

What a poll does to the group in effect when the backend is faithful and the source does not touch the layout:

- a change to a window whose layout is in effect or available brings it into effect (`poll_settled`);
- a change to a window whose layout is neither is refused (`poll_refused`);
- any other poll leaves the group alone (`poll_idle`).

All three keep the names and what the switcher knows of them, so they hold at every poll of a run in which others
change the group as they like (`group_follows_rules`).
-/

namespace FocusLayout.Focus.Watcher

open Layout (Backend Switcher Truthful groupsNamed)

variable {S T : Type} {config : Config} {backend : Backend S} {source : Source S} {view : S → Backend.Memory}
  {w : Watcher S} {window : Window} {g : Nat}

/-! ## Switching for a window -/

/-- A window without a layout changes nothing. -/
theorem switchFor_none (h : config.layoutFor window = none) :
    ((switchFor config backend window).run w).state = w := by
  rw [run_switchFor_none h]

/-- A layout that is in effect or available is in effect afterwards. -/
theorem switchFor_settled (hb : backend.Faithful view) (hk : Truthful view w.bench)
    (hn : (view w.bench.device).names.length < Nat.pow 2 32) (h : config.layoutFor window = some g)
    (hg : (view w.bench.device).group = g ∨ g < groupsNamed (view w.bench.device).names) :
    ((switchFor config backend window).run w).result = .ok () ∧
      view ((switchFor config backend window).run w).state.bench.device =
        { view w.bench.device with group := g } ∧
      Truthful view ((switchFor config backend window).run w).state.bench := by
  -- a group in effect is not checked, so it stays even where it is out of range
  by_cases hc : (view w.bench.device).group = g
  · obtain ⟨hr, hview, hk'⟩ := Switcher.apply_faithful_same hb hk hc
    rw [run_switchFor_same h hr]
    exact ⟨rfl, hview.trans (by rw [← hc]), hk'⟩
  · obtain ⟨hr, hview, hk'⟩ := Switcher.apply_faithful_of_lt hb hk hn hc (hg.resolve_left hc)
    -- describing the layout for the log reads the names once more
    obtain ⟨-, hview', hk''⟩ := Switcher.names_faithful hb hk'
    obtain ⟨text, -, hs⟩ := run_switchFor_switched h hr
    rw [hs]
    exact ⟨rfl, hview'.trans hview, hk''⟩

/-- A layout that is neither is refused. -/
theorem switchFor_refused (hb : backend.Faithful view) (hk : Truthful view w.bench)
    (hn : (view w.bench.device).names.length < Nat.pow 2 32) (h : config.layoutFor window = some g)
    (hc : (view w.bench.device).group ≠ g) (hg : groupsNamed (view w.bench.device).names ≤ g) :
    ((switchFor config backend window).run w).result =
        .error (.invalidLayout g (groupsNamed (view w.bench.device).names)) ∧
      view ((switchFor config backend window).run w).state.bench.device = view w.bench.device ∧
      Truthful view ((switchFor config backend window).run w).state.bench := by
  obtain ⟨hr, hview, hk'⟩ := Switcher.apply_faithful_of_le hb hk hn hc hg
  rw [run_switchFor_failed h hr]
  exact ⟨rfl, hview, hk'⟩

/-! ## One poll -/

section Poll

variable (hb : backend.Faithful view) (hs : ∀ s, view (source.activeWindow.run s).state = view s)
  (hk : Truthful view w.bench)

include hs in
/-- Asking the source does not touch the layout. -/
theorem view_asked : view (w.asked source).bench.device = view w.bench.device := hs w.bench.device

include hs hk in
/-- Nor what the switcher knows of it. -/
theorem truthful_asked : Truthful view (w.asked source).bench := fun names h =>
  (hk names h).trans (congrArg Backend.Memory.names (view_asked hs).symm)

include hb hs hk

/-- A change to a window whose layout is in effect or available. -/
theorem poll_settled (hn : (view w.bench.device).names.length < Nat.pow 2 32)
    (ha : source.answerTo w = .ok (some window)) (hc : isChange w.seen (some window) = true)
    (h : config.layoutFor window = some g)
    (hg : (view w.bench.device).group = g ∨ g < groupsNamed (view w.bench.device).names) :
    ((poll config backend source).run w).result = .ok (some (.changed window)) ∧
      view ((poll config backend source).run w).state.bench.device = { view w.bench.device with group := g } ∧
      Truthful view ((poll config backend source).run w).state.bench := by
  have hview := view_asked (w := w) hs
  rw [← hview] at hn hg ⊢
  obtain ⟨hr, hview', hk'⟩ := switchFor_settled (w := (w.asked source).remember (some window)) hb
    (truthful_asked hs hk) hn h hg
  rw [run_poll_window ha hc, hr]
  exact ⟨rfl, hview', hk'⟩

/-- A change to a window whose layout is neither. -/
theorem poll_refused (hn : (view w.bench.device).names.length < Nat.pow 2 32)
    (ha : source.answerTo w = .ok (some window)) (hc : isChange w.seen (some window) = true)
    (h : config.layoutFor window = some g) (hne : (view w.bench.device).group ≠ g)
    (hg : groupsNamed (view w.bench.device).names ≤ g) :
    ((poll config backend source).run w).result =
        .error (.invalidLayout g (groupsNamed (view w.bench.device).names)) ∧
      view ((poll config backend source).run w).state.bench.device = view w.bench.device ∧
      Truthful view ((poll config backend source).run w).state.bench := by
  have hview := view_asked (w := w) hs
  rw [← hview] at hn hg hne ⊢
  obtain ⟨hr, hview', hk'⟩ := switchFor_refused (w := (w.asked source).remember (some window)) hb
    (truthful_asked hs hk) hn h hne hg
  rw [run_poll_window ha hc, hr]
  exact ⟨rfl, hview', hk'⟩

omit hb in
/-- Any other poll. -/
theorem poll_idle (config : Config) (backend : Backend S)
    (h : ∀ window g, source.answerTo w = .ok (some window) → isChange w.seen (some window) = true →
      config.layoutFor window ≠ some g) :
    view ((poll config backend source).run w).state.bench.device = view w.bench.device ∧
      Truthful view ((poll config backend source).run w).state.bench := by
  have hasked := And.intro (view_asked (w := w) hs) (truthful_asked hs hk)
  rcases change_or_quiet source w with ⟨observed, ha, hc⟩ | hq
  · cases observed with
    | none => rw [run_poll_lost ha hc]; exact hasked
    | some window =>
      have hl : config.layoutFor window = none := Option.eq_none_iff_forall_ne_some.mpr fun g => h window g ha hc
      rw [run_poll_window ha hc, switchFor_none hl]
      exact hasked
  · rw [(run_poll_quiet config backend hq).1]
    exact hasked

/-- Every poll keeps the names and what the switcher knows of them. -/
theorem poll_keeps_names (config : Config) (hn : (view w.bench.device).names.length < Nat.pow 2 32) :
    (view ((poll config backend source).run w).state.bench.device).names = (view w.bench.device).names ∧
      Truthful view ((poll config backend source).run w).state.bench := by
  by_cases hi : ∀ window g, source.answerTo w = .ok (some window) → isChange w.seen (some window) = true →
      config.layoutFor window ≠ some g
  · obtain ⟨hview, hk'⟩ := poll_idle hs hk config backend hi
    exact ⟨congrArg Backend.Memory.names hview, hk'⟩
  · push Not at hi
    obtain ⟨window, g, ha, hc, h⟩ := hi
    by_cases hg : (view w.bench.device).group = g ∨ g < groupsNamed (view w.bench.device).names
    · obtain ⟨-, hview, hk'⟩ := poll_settled hb hs hk hn ha hc h hg
      exact ⟨by rw [hview], hk'⟩
    · obtain ⟨hne, hle⟩ := not_or.mp hg
      obtain ⟨-, hview, hk'⟩ := poll_refused hb hs hk hn ha hc h hne (Nat.le_of_not_lt hle)
      exact ⟨congrArg Backend.Memory.names hview, hk'⟩

end Poll

/-! ## A whole run -/

/-- At every poll the device still has its names, and the switcher knows no others. -/
theorem Reached.truthful {cycle : List Nat} {device : S} {earlier : List (Watcher S)} (hb : backend.Faithful view)
    (hs : ∀ s, view (source.activeWindow.run s).state = view s) (hn : (view device).names.length < Nat.pow 2 32)
    (h : Reached config backend source (fun d d' => (view d').names = (view d).names) (fresh cycle device) earlier
      w) :
    (view w.bench.device).names = (view device).names ∧ Truthful view w.bench := by
  induction h with
  | first ho => exact ⟨ho, nofun⟩
  | @next earlier w device' _ ho ih =>
    obtain ⟨hw, hk⟩ := ih
    obtain ⟨hnames, hk'⟩ := poll_keeps_names hb hs hk config (by rw [hw]; exact hn)
    exact ⟨ho.trans (hnames.trans hw), fun names hknown => (hk' names hknown).trans ho.symm⟩

/-- **The layout follows the rules.** In a run over a faithful backend, whose group others may change before any poll,
a poll that observes a change to a window with layout `g` leaves `g` in effect and returns the event if `g` was in
effect already or is available; if it is neither, the poll fails with the groups that there are. In that case, and
after any poll of another kind, the group in effect is the one from before the poll. -/
theorem group_follows_rules (config : Config) {backend : Backend T} {view : T → Backend.Memory}
    (hb : backend.Faithful view) (source : Source S) (cycle : List Nat) (device : S × T)
    (hn : (view device.2).names.length < Nat.pow 2 32) {earlier : List (Watcher (S × T))} {w : Watcher (S × T)}
    (h : Reached config (onSecond backend) source.onFirst (fun d d' => (view d'.2).names = (view d.2).names)
      (fresh cycle device) earlier w) :
    let available := groupsNamed (view device.2).names
    let group := (view w.bench.device.2).group
    let polled := (poll config (onSecond backend) source.onFirst).run w
    let observes := fun window => source.onFirst.answerTo w = .ok (some window) ∧
      News (earlier.map source.onFirst.answerTo) (some window)
    (∀ window g, observes window → config.layoutFor window = some g →
      (group = g ∨ g < available →
        (view polled.state.bench.device.2).group = g ∧ polled.result = .ok (some (.changed window))) ∧
      (group ≠ g → available ≤ g →
        polled.result = .error (.invalidLayout g available) ∧ (view polled.state.bench.device.2).group = group)) ∧
    ((∀ window g, observes window → config.layoutFor window ≠ some g) →
      (view polled.state.bench.device.2).group = group) := by
  intro available group polled observes
  have hb' : (onSecond backend : Backend (S × T)).Faithful fun d => view d.2 := hb.within _ _ fun _ _ => rfl
  have hs : ∀ d : S × T, view (source.onFirst.activeWindow.run d).state.2 = view d.2 := fun _ => rfl
  obtain ⟨hnames, hk⟩ := h.truthful hb' hs hn
  have hn' : (view w.bench.device.2).names.length < Nat.pow 2 32 := by rw [hnames]; exact hn
  have hav : groupsNamed (view w.bench.device.2).names = available := by rw [hnames]
  refine ⟨fun window g ⟨ha, hnews⟩ hl => ⟨fun hg => ?_, fun hne hle => ?_⟩, fun hi => ?_⟩
  · rw [← hav] at hg
    obtain ⟨hr, hview, -⟩ := poll_settled hb' hs hk hn' ha ((h.isChange_iff _).mpr hnews) hl hg
    exact ⟨congrArg Backend.Memory.group hview, hr⟩
  · rw [← hav] at hle ⊢
    obtain ⟨hr, hview, -⟩ := poll_refused hb' hs hk hn' ha ((h.isChange_iff _).mpr hnews) hl hne hle
    exact ⟨hr, congrArg Backend.Memory.group hview⟩
  · have hidle := poll_idle hs hk config (onSecond backend) fun window g ha hc =>
      hi window g ⟨ha, (h.isChange_iff _).mp hc⟩
    exact congrArg Backend.Memory.group hidle.1

/-- Two groups and a rule for group 9: it is refused, but stays in effect where another client has locked it. -/
theorem group_follows_rules_out_of_range :
    let window : Window := ⟨10, "tg", "Tg", "telegram"⟩
    let config := Config.indexed { Config.default with rules := [⟨none, 9⟩] }
    let source : Source (List Reply × Backend.Memory) := Source.scripted.onFirst
    let w := fresh [] (([⟨.ok (some window), 0⟩] : List Reply), (⟨0, ["us", "ru"]⟩ : Backend.Memory))
    let w' := w.withDevice (w.bench.device.1, ⟨9, ["us", "ru"]⟩)
    ((poll config (onSecond Backend.dryRun) source).run w).result = .error (.invalidLayout 9 2) ∧
      ((poll config (onSecond Backend.dryRun) source).run w').result = .ok (some (.changed window)) ∧
      ((poll config (onSecond Backend.dryRun) source).run w').state.bench.device.2.group = 9 := by
  intro window config source w w'
  have hn : (id w.bench.device.2).names.length < Nat.pow 2 32 := by decide
  have h : Reached config (onSecond Backend.dryRun) source (fun d d' => (id d'.2).names = (id d.2).names) w [] w :=
    .start_undisturbed fun _ => rfl
  have h' : Reached config (onSecond Backend.dryRun) source (fun d d' => (id d'.2).names = (id d.2).names) w [] w' :=
    .first rfl
  have law := (group_follows_rules config Layout.faithful_dryRun Source.scripted [] w.bench.device hn h).1
    window 9 ⟨rfl, nofun⟩ rfl
  have law' := (group_follows_rules config Layout.faithful_dryRun Source.scripted [] w.bench.device hn h').1
    window 9 ⟨rfl, nofun⟩ rfl
  have refused := law.2 (by decide) (by decide)
  have kept := law'.1 (.inl rfl)
  exact ⟨refused.1, kept.2, kept.1⟩

end FocusLayout.Focus.Watcher
