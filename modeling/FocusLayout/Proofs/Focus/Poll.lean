import FocusLayout.Proofs.Layout.Switching
import FocusLayout.Focus.Watcher

/-!
# What one poll does

A poll asks the source (`asked`, `Source.answerTo`) and takes in the answer (`run_poll`). It has one equation for each
answer: a failure (`run_poll_passing`, `run_poll_failing`), nothing new (`run_poll_same`), no window any more
(`run_poll_lost`) and another window (`run_poll_window`). The first three are quiet (`run_poll_quiet`).

The last case remembers the window before it switches for it, and `Watcher.switchFor` has one equation for each
outcome of `Layout.Switcher.apply`.
-/

namespace FocusLayout

/-- The line by which the watcher announces an event. -/
def FocusEvent.line (e : FocusEvent) : Log.Entry := ⟨.info, .watcher, e.text⟩

namespace Focus

open Layout (Backend Switcher)

variable {S : Type}

/-- What the source answers to a poll that finds the watcher so. -/
def Source.answerTo (source : Source S) (w : Watcher S) : Except Failure (Option Window) :=
  (source.activeWindow.run w.bench.device).result

namespace Watcher

/-- The watcher once its source has answered. -/
def asked (source : Source S) (w : Watcher S) : Watcher S :=
  { w with bench := { w.bench with device := (source.activeWindow.run w.bench.device).state } }

/-- The watcher that remembers an observation. -/
def remember (observed : Option Window) (w : Watcher S) : Watcher S :=
  { w with seen := some observed }

@[simp] theorem run_onBench {α : Type} (t : Step (Layout.Bench S) α) (w : Watcher S) :
    (onBench t).run w =
      ⟨(t.run w.bench).result, { w with bench := (t.run w.bench).state }, (t.run w.bench).log⟩ := rfl

variable (config : Config) (backend : Backend S)

/-- A poll takes in the answer of its source. -/
theorem run_poll (source : Source S) (w : Watcher S) :
    (poll config backend source).run w =
      ⟨((observe config backend (source.answerTo w)).run (w.asked source)).result,
        ((observe config backend (source.answerTo w)).run (w.asked source)).state,
        (source.activeWindow.run w.bench.device).log ++
          ((observe config backend (source.answerTo w)).run (w.asked source)).log⟩ := rfl

/-! ## Switching for a window -/

section SwitchFor

variable {config backend} {window : Window} {g : Nat} {w : Watcher S}

/-- A window without a layout only gets a line. -/
theorem run_switchFor_none (h : config.layoutFor window = none) :
    (switchFor config backend window).run w =
      ⟨.ok (), w, [⟨.debug, .watcher, s!"Для {window.text} нет правила раскладки"⟩]⟩ := by
  unfold switchFor
  rw [h]
  rfl

/-- A layout that is in effect already needs nothing more. -/
theorem run_switchFor_same (h : config.layoutFor window = some g)
    (ha : ((Switcher.apply backend g).run w.bench).result = .ok false) :
    (switchFor config backend window).run w =
      ⟨.ok (), { w with bench := ((Switcher.apply backend g).run w.bench).state },
        ((Switcher.apply backend g).run w.bench).log⟩ := by
  unfold switchFor
  simp [h, ha]

/-- After a switch the layout is described in a line. -/
theorem run_switchFor_switched (h : config.layoutFor window = some g)
    (ha : ((Switcher.apply backend g).run w.bench).result = .ok true) :
    ∃ text : String,
      ((Switcher.describe backend g).run ((Switcher.apply backend g).run w.bench).state).result = .ok text ∧
      (switchFor config backend window).run w =
        ⟨.ok (),
          { w with bench := ((Switcher.names backend).run ((Switcher.apply backend g).run w.bench).state).state },
          ((Switcher.apply backend g).run w.bench).log ++
            (((Switcher.names backend).run ((Switcher.apply backend g).run w.bench).state).log ++
              [⟨.info, .watcher, s!"Раскладка {text} для {window.text}"⟩])⟩ := by
  obtain ⟨text, hd⟩ :=
    Switcher.run_describe (b := backend) g ((Switcher.apply backend g).run w.bench).state
  refine ⟨text, congrArg Outcome.result hd, ?_⟩
  have hb : ((onBench (Switcher.describe backend g)).run
      { w with bench := ((Switcher.apply backend g).run w.bench).state }).result = .ok text := by
    rw [run_onBench, hd]
  unfold switchFor
  simp only [h, Step.run_bind_attempt, run_onBench, ha]
  rw [Step.run_bind_ok _ hb]
  simp [hd]

/-- A failed switch ends the poll, unless the failure is a passing one. -/
theorem run_switchFor_failed {f : Failure} (h : config.layoutFor window = some g)
    (ha : ((Switcher.apply backend g).run w.bench).result = .error f) :
    (switchFor config backend window).run w =
      ⟨if f.isProtocol then .ok () else .error f, { w with bench := ((Switcher.apply backend g).run w.bench).state },
        ((Switcher.apply backend g).run w.bench).log ++
          (if f.isProtocol then
            [⟨.warn, .watcher, s!"Не удалось переключить раскладку для {window.text}: {f.message}"⟩] else [])⟩ := by
  unfold switchFor
  simp only [h, Step.run_bind_attempt, run_onBench, ha]
  cases f.isProtocol <;> simp

end SwitchFor

/-! ## Taking in an answer -/

section Observe

variable {config backend} {w : Watcher S}

/-- A passing failure of the source is only warned about. -/
theorem run_observe_passing {f : Failure} (hf : f.isProtocol = true) :
    (observe config backend (.error f)).run w =
      ⟨.ok none, w, [⟨.warn, .watcher, s!"Окно с фокусом недоступно: {f.message}"⟩]⟩ := by
  unfold observe
  simp [hf]

/-- Any other failure of the source ends the poll. -/
theorem run_observe_failing {f : Failure} (hf : f.isProtocol = false) :
    (observe config backend (.error f)).run w = ⟨.error f, w, []⟩ := by
  unfold observe
  simp [hf]

/-- What is no change leaves everything as it was. -/
theorem run_observe_same {observed : Option Window} (h : isChange w.seen observed = false) :
    (observe config backend (.ok observed)).run w = ⟨.ok none, w, []⟩ := by
  unfold observe
  simp [h]

/-- The loss of the focus is remembered. -/
theorem run_observe_lost (h : isChange w.seen none = true) :
    (observe config backend (.ok none)).run w = ⟨.ok (some .lost), w.remember none, [FocusEvent.lost.line]⟩ := by
  unfold observe
  simp only [Step.run_bind_state, h, if_true]
  rfl

/-- Another window is remembered first; then the layout is switched for it. -/
theorem run_observe_window {window : Window} (h : isChange w.seen (some window) = true) :
    (observe config backend (.ok (some window))).run w =
      ⟨((switchFor config backend window).run (w.remember (some window))).result.map
          fun _ => some (.changed window),
        ((switchFor config backend window).run (w.remember (some window))).state,
        (FocusEvent.changed window).line ::
          ((switchFor config backend window).run (w.remember (some window))).log⟩ := by
  unfold observe
  simp only [Step.run_bind_state, h, if_true, Step.run_bind_say, Step.run_bind_update, Step.run_bind_pure]
  rfl

end Observe

/-! ## One poll -/

section Poll

variable {config backend} {source : Source S} {w : Watcher S}

theorem run_poll_passing {f : Failure} (ha : source.answerTo w = .error f) (hf : f.isProtocol = true) :
    (poll config backend source).run w =
      ⟨.ok none, w.asked source, (source.activeWindow.run w.bench.device).log ++
        [⟨.warn, .watcher, s!"Окно с фокусом недоступно: {f.message}"⟩]⟩ := by
  rw [run_poll, ha, run_observe_passing hf]

theorem run_poll_failing {f : Failure} (ha : source.answerTo w = .error f) (hf : f.isProtocol = false) :
    (poll config backend source).run w =
      ⟨.error f, w.asked source, (source.activeWindow.run w.bench.device).log⟩ := by
  rw [run_poll, ha, run_observe_failing hf, List.append_nil]

theorem run_poll_same {observed : Option Window} (ha : source.answerTo w = .ok observed)
    (hc : isChange w.seen observed = false) :
    (poll config backend source).run w =
      ⟨.ok none, w.asked source, (source.activeWindow.run w.bench.device).log⟩ := by
  rw [run_poll, ha, run_observe_same (w := w.asked source) hc, List.append_nil]

theorem run_poll_lost (ha : source.answerTo w = .ok none) (hc : isChange w.seen none = true) :
    (poll config backend source).run w =
      ⟨.ok (some .lost), (w.asked source).remember none,
        (source.activeWindow.run w.bench.device).log ++ [FocusEvent.lost.line]⟩ := by
  rw [run_poll, ha, run_observe_lost (w := w.asked source) hc]

theorem run_poll_window {window : Window} (ha : source.answerTo w = .ok (some window))
    (hc : isChange w.seen (some window) = true) :
    (poll config backend source).run w =
      ⟨((switchFor config backend window).run ((w.asked source).remember (some window))).result.map
          fun _ => some (.changed window),
        ((switchFor config backend window).run ((w.asked source).remember (some window))).state,
        (source.activeWindow.run w.bench.device).log ++ (FocusEvent.changed window).line ::
          ((switchFor config backend window).run ((w.asked source).remember (some window))).log⟩ := by
  rw [run_poll, ha, run_observe_window (w := w.asked source) hc]

/-- The poll in which the source fails returns nothing if the failure is a passing one. -/
theorem result_poll_of_error {f : Failure} (ha : source.answerTo w = .error f) :
    ((poll config backend source).run w).result = if f.isProtocol then .ok none else .error f := by
  cases hf : f.isProtocol with
  | true => rw [run_poll_passing ha hf, if_pos rfl]
  | false => rw [run_poll_failing ha hf, if_neg Bool.false_ne_true]

/-- The poll in which a switch fails returns the event all the same if the failure is a passing one. -/
theorem result_poll_failed {window : Window} {g : Nat} {f : Failure} (ha : source.answerTo w = .ok (some window))
    (hc : isChange w.seen (some window) = true) (hl : config.layoutFor window = some g)
    (hf : ((Switcher.apply backend g).run (w.asked source).bench).result = .error f) :
    ((poll config backend source).run w).result =
      if f.isProtocol then .ok (some (.changed window)) else .error f := by
  rw [run_poll_window ha hc, run_switchFor_failed (w := (w.asked source).remember (some window)) hl hf]
  cases f.isProtocol <;> rfl

/-! ## Polls without a change -/

/-- Nothing that the poll is answered is a change. -/
def Quiet (source : Source S) (w : Watcher S) : Prop :=
  ∀ observed, source.answerTo w = .ok observed → isChange w.seen observed = false

theorem quiet_of_error {f : Failure} (ha : source.answerTo w = .error f) : Quiet source w := by
  intro observed h
  rw [ha] at h
  cases h

theorem quiet_of_same {observed : Option Window} (ha : source.answerTo w = .ok observed)
    (hc : isChange w.seen observed = false) : Quiet source w := by
  intro observed' h
  rw [ha] at h
  cases h
  exact hc

/-- A poll sees a change or is quiet. -/
theorem change_or_quiet (source : Source S) (w : Watcher S) :
    (∃ observed, source.answerTo w = .ok observed ∧ isChange w.seen observed = true) ∨ Quiet source w := by
  by_cases hc : ∃ observed, source.answerTo w = .ok observed ∧ isChange w.seen observed = true
  · exact .inl hc
  · exact .inr fun observed ha => Bool.eq_false_iff.mpr fun h => hc ⟨observed, ha, h⟩

/-- A quiet poll has only asked its source. It returns no event and adds nothing but warnings to the lines of the
source. -/
theorem run_poll_quiet (config : Config) (backend : Backend S) (h : Quiet source w) :
    ((poll config backend source).run w).state = w.asked source ∧
      (∀ e, ((poll config backend source).run w).result ≠ .ok (some e)) ∧
      ∃ rest, ((poll config backend source).run w).log = (source.activeWindow.run w.bench.device).log ++ rest ∧
        ∀ line ∈ rest, line.level = .warn := by
  cases ha : source.answerTo w with
  | ok observed =>
    rw [run_poll_same ha (h observed ha)]
    exact ⟨rfl, nofun, [], (List.append_nil _).symm, nofun⟩
  | error f =>
    cases hf : f.isProtocol with
    | true =>
      rw [run_poll_passing ha hf]
      refine ⟨rfl, nofun, _, rfl, fun line hl => ?_⟩
      rw [List.mem_singleton.mp hl]
    | false =>
      rw [run_poll_failing ha hf]
      exact ⟨rfl, nofun, [], (List.append_nil _).symm, nofun⟩

/-- A poll that sees a change returns its event or fails. -/
theorem result_poll_change (config : Config) (backend : Backend S) {observed : Option Window}
    (ha : source.answerTo w = .ok observed) (hc : isChange w.seen observed = true) :
    ((poll config backend source).run w).result = .ok (some (.ofObservation observed)) ∨
      ∃ f, ((poll config backend source).run w).result = .error f := by
  cases observed with
  | none => exact .inl (by rw [run_poll_lost ha hc]; rfl)
  | some window =>
    rw [run_poll_window ha hc]
    dsimp only
    cases ((switchFor config backend window).run ((w.asked source).remember (some window))).result with
    | error f => exact .inr ⟨f, rfl⟩
    | ok u => exact .inl rfl

end Poll

end Watcher

end Focus

end FocusLayout
