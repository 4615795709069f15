import FocusLayout.Proofs.Focus.Run

/-!
# The events of a run

Which polls announce an event, and which event (`announces_iff_news`).

- the line of an event stands right after the lines of the source (`Announces`), and no other line can be taken for
  one, unless the source or the backend wrote it (`eventLine_cases`);
- a poll announces an event exactly when it sees a change (`announces_iff_isChange`), which is when it observes news
  of the run (`Reached.announces_iff`);
- two announcements in a row differ (`Reached.differ_of_announces`).
-/

namespace FocusLayout.Focus.Watcher

open Layout (Backend Switcher)

variable {S : Type}

/-- The line announces some event. -/
def IsEventLine (line : Log.Entry) : Prop :=
  ∃ e : FocusEvent, line = e.line

/-- The poll announces an event: its line follows the lines of the source, and no line of an event comes after it but
those that the backend writes. -/
def Announces (config : Config) (backend : Backend S) (source : Source S) (w : Watcher S) (e : FocusEvent) : Prop :=
  ∃ rest, ((poll config backend source).run w).log = (source.activeWindow.run w.bench.device).log ++ e.line :: rest ∧
    ∀ line ∈ rest, IsEventLine line → backend.Writes line

/-! ## Lines that announce nothing -/

theorem not_isEventLine_of_level {line : Log.Entry} (h : line.level ≠ .info) : ¬IsEventLine line := by
  rintro ⟨e, rfl⟩
  exact h rfl

theorem not_isEventLine_of_origin {line : Log.Entry} (h : line.origin ≠ .watcher) : ¬IsEventLine line := by
  rintro ⟨e, rfl⟩
  exact h rfl

/-- The text of an event starts with the word for its kind. -/
theorem head_text (e : FocusEvent) : e.text.toList.head? = some 'F' := by
  cases e <;> simp [FocusEvent.text, FocusEvent.window?, FocusEvent.kind, toString]

/-- The line that tells the layout of a window announces nothing. -/
theorem not_isEventLine_layout (layout : String) (window : Window) :
    ¬IsEventLine ⟨.info, .watcher, s!"Раскладка {layout} для {window.text}"⟩ := by
  rintro ⟨e, he⟩
  have ht : s!"Раскладка {layout} для {window.text}" = e.text := congrArg Log.Entry.text he
  have hh := head_text e
  rw [← ht] at hh
  simp [toString] at hh

variable {config : Config} {backend : Backend S} {source : Source S} {w : Watcher S}

/-- While the layout is switched for a window, only the backend can write what looks like an event. -/
theorem logs_switchFor (config : Config) (window : Window) :
    (switchFor config backend window).Logs fun line => IsEventLine line → backend.Writes line := by
  have hbench : ∀ line, Switcher.Writes backend line → IsEventLine line → backend.Writes line := by
    rintro line (ho | hw) he
    · exact absurd he (not_isEventLine_of_origin (by rw [ho]; decide))
    · exact hw
  unfold switchFor
  cases config.layoutFor window with
  | none => exact Step.Logs.say (Not.elim (not_isEventLine_of_level nofun))
  | some g =>
    refine Step.Logs.bind (((Switcher.logs_apply g).mono hbench).within _ _).attempt fun answer => ?_
    rcases answer with f | _ | _
    · dsimp only
      split
      · exact Step.Logs.say (Not.elim (not_isEventLine_of_level nofun))
      · exact Step.Logs.fail _
    · exact Step.Logs.pure ()
    · exact (((Switcher.logs_describe g).mono hbench).within _ _).bind fun layout =>
        Step.Logs.say (not_isEventLine_layout layout window).elim

/-! ## One poll -/

/-- A poll that sees a change announces it. -/
theorem announces_of_change (config : Config) (backend : Backend S) {observed : Option Window}
    (ha : source.answerTo w = .ok observed) (hc : isChange w.seen observed = true) :
    Announces config backend source w (.ofObservation observed) := by
  cases observed with
  | none =>
    refine ⟨[], ?_, by simp⟩
    rw [run_poll_lost ha hc]
    rfl
  | some window =>
    refine ⟨_, ?_, logs_switchFor config window ((w.asked source).remember (some window))⟩
    rw [run_poll_window ha hc]
    rfl

/-- The polls that announce an event are those that see a change. -/
theorem announces_iff_isChange :
    (∃ e, Announces config backend source w e) ↔
      ∃ observed, source.answerTo w = .ok observed ∧ isChange w.seen observed = true := by
  constructor
  · rintro ⟨e, rest, hlog, -⟩
    rcases change_or_quiet source w with hc | hq
    · exact hc
    · obtain ⟨-, -, rest', hlog', hrest⟩ := run_poll_quiet config backend hq
      -- the line after those of the source would be a warning
      rw [hlog] at hlog'
      have hwarn := hrest e.line (by rw [← List.append_cancel_left hlog']; exact List.mem_cons_self)
      cases hwarn
  · rintro ⟨observed, ha, hc⟩
    exact ⟨_, announces_of_change config backend ha hc⟩

/-- Two announcements of one poll read the same. -/
theorem Announces.line_eq {e e' : FocusEvent} (h : Announces config backend source w e)
    (h' : Announces config backend source w e') : e.line = e'.line := by
  obtain ⟨rest, hlog, -⟩ := h
  obtain ⟨rest', hlog', -⟩ := h'
  rw [hlog] at hlog'
  exact (List.cons.inj (List.append_cancel_left hlog')).1

/-- What looks like an event in the log of a poll was written by its source, by its backend, or announces one. -/
theorem eventLine_cases {line : Log.Entry} (hl : line ∈ ((poll config backend source).run w).log)
    (he : IsEventLine line) :
    line ∈ (source.activeWindow.run w.bench.device).log ∨ backend.Writes line ∨
      ∃ e, Announces config backend source w e ∧ line = e.line := by
  rcases change_or_quiet source w with ⟨observed, ha, hc⟩ | hq
  · have hn := announces_of_change config backend ha hc
    obtain ⟨rest, hlog, hrest⟩ := id hn
    rw [hlog] at hl
    rcases List.mem_append.mp hl with hl | hl
    · exact .inl hl
    · rcases List.mem_cons.mp hl with rfl | hl
      · exact .inr (.inr ⟨_, hn, rfl⟩)
      · exact .inr (.inl (hrest line hl he))
  · obtain ⟨-, -, rest, hlog, hrest⟩ := run_poll_quiet config backend hq
    rw [hlog] at hl
    rcases List.mem_append.mp hl with hl | hl
    · exact .inl hl
    · exact absurd he (not_isEventLine_of_level (by rw [hrest line hl]; decide))

/-! ## A whole run -/

variable {cycle : List Nat} {device : S} {outside : S → S → Prop} {earlier before between : List (Watcher S)}
  {v : Watcher S}

/-- The polls of a run that announce an event are those that observe news. -/
theorem Reached.announces_iff (h : Reached config backend source outside (fresh cycle device) earlier w) :
    (∃ e, Announces config backend source w e) ↔
      ∃ observed, source.answerTo w = .ok observed ∧ News (earlier.map source.answerTo) observed := by
  rw [announces_iff_isChange]
  exact exists_congr fun observed => and_congr_right fun _ => h.isChange_iff observed

/-- What one announcing poll observes differs from what the announcing poll before it observed. -/
theorem Reached.differ_of_announces {a b : Option Window}
    (h : Reached config backend source outside (fresh cycle device) (before ++ w :: between) v)
    (ha : source.answerTo w = .ok a) (hb : source.answerTo v = .ok b)
    (hw : ∃ e, Announces config backend source w e) (hv : ∃ e, Announces config backend source v e)
    (hq : ∀ u ∈ between, ¬∃ e, Announces config backend source u e) : Differ a b := by
  obtain ⟨a', ha', hca⟩ := announces_iff_isChange.mp hw
  obtain ⟨b', hb', hcb⟩ := announces_iff_isChange.mp hv
  rw [ha] at ha'
  rw [hb] at hb'
  cases ha'
  cases hb'
  -- no poll in between saw a change, so the second one compares with the window of the first
  have hseen : v.seen = some a := by
    refine h.seen_between (seen_poll_change ha hca) fun u hu _ => ?_
    exact (change_or_quiet source u).resolve_left fun hc => hq u hu (announces_iff_isChange.mpr hc)
  rw [hseen, isChange_some_iff] at hcb
  exact hcb

/-- **The event stream.** In a run of any length over any answers, whatever the backend does, the polls that announce
an event are those that observe something and whose observation is the first of the run or differs from the last one
before it; the event is that of the new observation. Nothing else in the log reads like an event, but for what the
source or the backend write themselves. Two announcements in a row differ, so none is repeated, and the loss of the
focus is not announced twice without a window in between. -/
theorem announces_iff_news (config : Config) (backend : Backend S) (source : Source S) (cycle : List Nat)
    (device : S) :
    (∀ earlier w, Reached config backend source (fun _ _ => True) (fresh cycle device) earlier w →
      ((∃ e, Announces config backend source w e) ↔
        ∃ observed, source.answerTo w = .ok observed ∧ News (earlier.map source.answerTo) observed) ∧
      (∀ observed e, source.answerTo w = .ok observed → Announces config backend source w e →
        e.line = (FocusEvent.ofObservation observed).line) ∧
      (∀ e, ((poll config backend source).run w).result = .ok (some e) →
        Announces config backend source w e ∧ source.answerTo w = .ok e.window?) ∧
      (∀ line ∈ ((poll config backend source).run w).log, IsEventLine line →
        line ∈ (source.activeWindow.run w.bench.device).log ∨ backend.Writes line ∨
          ∃ e, Announces config backend source w e ∧ line = e.line)) ∧
    ∀ before w between v,
      Reached config backend source (fun _ _ => True) (fresh cycle device) (before ++ w :: between) v →
      ∀ a b, source.answerTo w = .ok a → source.answerTo v = .ok b →
        (∃ e, Announces config backend source w e) → (∃ e, Announces config backend source v e) →
        (∀ u ∈ between, ¬∃ e, Announces config backend source u e) → Differ a b := by
  refine ⟨fun earlier w h => ⟨h.announces_iff, fun observed e ha he => ?_, fun e he => ?_, fun line => ?_⟩,
    fun before w between v h a b => h.differ_of_announces⟩
  · obtain ⟨observed', ha', hc⟩ := announces_iff_isChange.mp ⟨e, he⟩
    rw [ha] at ha'
    cases ha'
    exact he.line_eq (announces_of_change config backend ha hc)
  · rcases change_or_quiet source w with ⟨observed, ha, hc⟩ | hq
    · rcases result_poll_change config backend ha hc with hr | ⟨f, hr⟩
      · rw [hr] at he
        cases he
        rw [FocusEvent.window?_ofObservation]
        exact ⟨announces_of_change config backend ha hc, ha⟩
      · rw [hr] at he
        cases he
    · exact absurd he ((run_poll_quiet config backend hq).2.1 e)
  · exact eventLine_cases

/-- No window, a passing failure, still no window, then a window: the first poll and the last one announce, the third
does not. -/
theorem announces_iff_news_lost_once :
    let source : Source (List Reply × Backend.Memory) := Source.scripted.onFirst
    let backend := onSecond Backend.dryRun
    let step := fun w => ((poll Config.default backend source).run w).state
    let w₀ := fresh []
      ([⟨.ok none, 0⟩, ⟨.error (.protocol "XGetClassHint"), 0⟩, ⟨.ok none, 0⟩,
        ⟨.ok (some ⟨10, "tg", "Tg", "telegram"⟩), 0⟩], Backend.Memory.default)
    (∃ e, Announces Config.default backend source w₀ e) ∧
      (¬∃ e, Announces Config.default backend source (step (step w₀)) e) ∧
      Differ none (some ⟨10, "tg", "Tg", "telegram"⟩) := by
  intro source backend step w₀
  have ho : ∀ s : List Reply × Backend.Memory, True := fun _ => trivial
  have h₀ : Reached Config.default backend source (fun _ _ => True) w₀ [] w₀ := .start_undisturbed ho
  have h₁ := h₀.next_undisturbed ho
  have h₂ := h₁.next_undisturbed ho
  have h₃ := h₂.next_undisturbed ho
  have law := announces_iff_news Config.default backend source [] w₀.bench.device
  have hw₀ : ∃ e, Announces Config.default backend source w₀ e :=
    (law.1 _ _ h₀).1.mpr ⟨none, rfl, nofun⟩
  have hw₁ : ¬∃ e, Announces Config.default backend source (step w₀) e := by
    rw [(law.1 _ _ h₁).1]
    rintro ⟨observed, ha, -⟩
    cases ha
  have hw₂ : ¬∃ e, Announces Config.default backend source (step (step w₀)) e := by
    rw [(law.1 _ _ h₂).1]
    rintro ⟨observed, ha, hn⟩
    cases ha
    exact hn none rfl
  have hw₃ : ∃ e, Announces Config.default backend source (step (step (step w₀))) e := by
    refine (law.1 _ _ h₃).1.mpr ⟨_, rfl, fun last hl => ?_⟩
    cases hl
    trivial
  refine ⟨hw₀, hw₂, law.2 [] w₀ [step w₀, step (step w₀)] _ h₃ _ _ rfl rfl hw₀ hw₃ fun u hu => ?_⟩
  rcases List.mem_cons.mp hu with rfl | hu
  · exact hw₁
  · rw [List.mem_singleton.mp hu]
    exact hw₂

end FocusLayout.Focus.Watcher
