import FocusLayout.Proofs.Focus.Run
import Mathlib.Data.List.Find
import Mathlib.Tactic.Push

/-!
# What the watcher looks at and what the rules look at

The watcher tells windows apart by id, class and title, the rules by instance and class. Windows that do not differ
for the watcher have the same layout unless a pattern of the rules accepts one and not the other (`ToldApart`), which
takes different instances (`layoutFor_eq_or_toldApart`). That does happen (`layout_of_ignored_differs`).
-/

namespace FocusLayout.Config

open Focus

/-- A pattern of the rules accepts one of two windows of the same class and not the other. Then their instances
differ, and if there is a class at all, the pattern is found in exactly one of the instances and not in the class. -/
def ToldApart (config : Config) (a b : Window) : Prop :=
  a.instanceName ≠ b.instanceName ∧ ∃ p, Matcher.pattern p ∈ config.matchers ∧
    (Matcher.pattern p).accepts a ≠ (Matcher.pattern p).accepts b ∧
    (a.className ≠ "" → p.isIn a.className = false ∧ p.isIn a.instanceName ≠ p.isIn b.instanceName)

/-- Windows that the same matchers accept have the same layout. -/
theorem layoutFor_congr {config : Config} {a b : Window}
    (h : ∀ m ∈ config.matchers, m.accepts a = m.accepts b) : config.layoutFor a = config.layoutFor b := by
  unfold layoutFor
  rw [List.find?_congr fun entry he => h entry.1 (List.of_mem_zip he).1]

/-- A matcher sees nothing of a window but its instance and its class. -/
theorem accepts_congr (m : Matcher) {a b : Window} (hi : a.instanceName = b.instanceName)
    (hc : a.className = b.className) : m.accepts a = m.accepts b := by
  cases m <;> simp [Matcher.accepts, Window.isUnnamed, hi, hc]

/-- Only a pattern tells windows apart. -/
theorem exists_pattern_of_accepts_ne {m : Matcher} {a b : Window} (h : m.accepts a ≠ m.accepts b) :
    ∃ p, m = .pattern p := by
  cases m with
  | any => exact absurd rfl h
  | pattern p => exact ⟨p, rfl⟩
  | never => exact absurd rfl h

/-- With a class, a pattern accepts a window if it is found in the instance or in the class. -/
theorem accepts_of_class (p : Pattern) {w : Window} (h : w.className ≠ "") :
    (Matcher.pattern p).accepts w = (p.isIn w.instanceName || p.isIn w.className) := by
  have hu : w.isUnnamed = false := by
    simp [Window.isUnnamed, h]
  simp [Matcher.accepts, hu]

/-- Windows of one class with different layouts are told apart. -/
theorem toldApart_of_layoutFor_ne {config : Config} {a b : Window} (hc : a.className = b.className)
    (h : config.layoutFor a ≠ config.layoutFor b) : config.ToldApart a b := by
  have hm : ∃ m ∈ config.matchers, m.accepts a ≠ m.accepts b := by
    by_contra hn
    push Not at hn
    exact h (layoutFor_congr hn)
  obtain ⟨m, hmem, hne⟩ := hm
  obtain ⟨p, rfl⟩ := exists_pattern_of_accepts_ne hne
  refine ⟨fun hi => hne (accepts_congr _ hi hc), p, hmem, hne, fun hclass => ?_⟩
  rw [accepts_of_class p hclass, accepts_of_class p (hc ▸ hclass), ← hc] at hne
  cases hp : p.isIn a.className with
  | true => simp [hp] at hne
  | false => simpa [hp] using hne

/-- Windows that do not differ have the same class. -/
theorem className_eq_of_not_differs {a b : Window} (h : a.differs b = false) : a.className = b.className :=
  ((Window.differs_eq_false_iff a b).mp h).2.1

/-- **Change detection and rules.** Windows that do not differ have the same layout or are told apart by a pattern of
the rules, so they have the same layout if their instances agree. In any run, a window that the watcher ignores has
the layout of the window that it remembers or is told apart from it. -/
theorem layoutFor_eq_or_toldApart (config : Config) :
    (∀ a b : Window, a.differs b = false → config.layoutFor a = config.layoutFor b ∨ config.ToldApart a b) ∧
      ∀ (S : Type) (backend : Layout.Backend S) (source : Source S) (cycle : List Nat) (device : S) earlier w a b,
        Watcher.Reached config backend source (fun _ _ => True) (.fresh cycle device) earlier w →
        w.seen = some (some a) → source.answerTo w = .ok (some b) →
        ((Watcher.poll config backend source).run w).result = .ok none →
        config.layoutFor a = config.layoutFor b ∨ config.ToldApart a b := by
  have law : ∀ a b : Window, a.differs b = false →
      config.layoutFor a = config.layoutFor b ∨ config.ToldApart a b := by
    intro a b h
    by_cases he : config.layoutFor a = config.layoutFor b
    · exact .inl he
    · exact .inr (toldApart_of_layoutFor_ne (className_eq_of_not_differs h) he)
  refine ⟨law, fun S backend source cycle device earlier w a b _ hseen ha hr => law a b ?_⟩
  have hc := Watcher.isChange_of_ignored ha hr
  rw [hseen] at hc
  exact hc

/-! ## Two windows of one program -/

/-- Group 1 for the windows of one instance, group 0 for all others. -/
def chatRules : Config := indexed { default with rules := [⟨some "^telegram", 1⟩, ⟨none, 0⟩] }

/-- A window of that instance. -/
def chat : Window := ⟨10, "chat", "Tg", "telegram"⟩

/-- The same in all but the instance. -/
def viewer : Window := { chat with instanceName := "viewer" }

/-- A source that answers with a window. -/
def showing (w : Window) : List Reply × Layout.Backend.Memory := ([⟨.ok (some w), 0⟩], .default)

/-- The watcher that has just seen the first window and is about to be shown the other one. -/
def shownViewer : Watcher (List Reply × Layout.Backend.Memory) :=
  ((Watcher.poll chatRules (onSecond .dryRun) Source.scripted.onFirst).run
    (.fresh [] (showing chat))).state.withDevice (showing viewer)

theorem layoutFor_chat_ne_viewer : chatRules.layoutFor chat ≠ chatRules.layoutFor viewer := by
  have hchat : chatRules.layoutFor chat = some 1 := by decide +kernel
  have hviewer : chatRules.layoutFor viewer = some 0 := by decide +kernel
  rw [hchat, hviewer]
  decide

/-- The first window is remembered. -/
theorem seen_shownViewer : shownViewer.seen = some (some chat) :=
  Watcher.seen_poll_change rfl rfl

/-- The other one is ignored. -/
theorem result_shownViewer :
    ((Watcher.poll chatRules (onSecond .dryRun) Source.scripted.onFirst).run shownViewer).result = .ok none := by
  have hc : Watcher.isChange shownViewer.seen (some viewer) = false := by
    rw [seen_shownViewer]
    decide
  rw [Watcher.run_poll_same rfl hc]

/-- A pattern tells them apart. -/
theorem layoutFor_eq_or_toldApart_chat :
    chat.differs viewer = false ∧ chatRules.ToldApart chat viewer ∧
      (chatRules.layoutFor chat = chatRules.layoutFor viewer ∨ chatRules.ToldApart chat viewer) := by
  have law := layoutFor_eq_or_toldApart chatRules
  have hr : Watcher.Reached chatRules (onSecond .dryRun) Source.scripted.onFirst (fun _ _ => True)
      (.fresh [] (showing chat)) [.fresh [] (showing chat)] shownViewer :=
    .next (.start_undisturbed fun _ => trivial) trivial
  refine ⟨rfl, (law.1 chat viewer rfl).resolve_left layoutFor_chat_ne_viewer, ?_⟩
  exact law.2 _ _ _ [] (showing chat) _ _ chat viewer hr seen_shownViewer rfl result_shownViewer

/-- Windows that do not differ may have different layouts, and then the watcher leaves the layout of the window that
it remembers in effect. -/
theorem layout_of_ignored_differs :
    chat.differs viewer = false ∧ chatRules.layoutFor chat ≠ chatRules.layoutFor viewer ∧
      shownViewer.seen = some (some chat) ∧ Source.scripted.onFirst.answerTo shownViewer = .ok (some viewer) ∧
      ((Watcher.poll chatRules (onSecond .dryRun) Source.scripted.onFirst).run shownViewer).result = .ok none :=
  ⟨rfl, layoutFor_chat_ne_viewer, seen_shownViewer, rfl, result_shownViewer⟩

end FocusLayout.Config
