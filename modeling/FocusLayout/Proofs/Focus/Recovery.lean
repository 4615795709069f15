import FocusLayout.Layout.Script
import FocusLayout.Proofs.Focus.Calls
import FocusLayout.Proofs.Focus.Run

/-!
# After a failed switch

The watcher remembers a window before it switches for it, so a switch that fails is not tried again while the window
keeps the focus, whatever failed (`Reached.not_tried_again`). It is the next change of the focus that recovers: its
layout is asked for as if nothing had failed (`calls_poll_tries`).
-/

namespace FocusLayout.Focus

open Layout (Backend Script Switcher)
open Layout.Backend (Noted Call)

variable {S : Type}

namespace Watcher

variable {config : Config} {backend : Backend S} {source : Source S} {w v : Watcher (Noted S)} {window : Window}
  {g : Nat}

/-! ## A failed switch in a run -/

variable {cycle : List Nat} {device : Noted S} {outside : Noted S → Noted S → Prop}
  {before between : List (Watcher (Noted S))}

/-- While only what does not differ from the window is observed, its layout is not asked for again. -/
theorem Reached.not_tried_again {start : Watcher (Noted S)} {remembered : Option Window}
    (h : Reached config backend.noting source.onNoted outside start (before ++ w :: between) v)
    (hw : ((poll config backend.noting source.onNoted).run w).state.seen = some remembered)
    (hs : ∀ u ∈ between ++ [v], ∀ observed, source.onNoted.answerTo u = .ok observed → ¬Differ remembered observed) :
    v.seen = some remembered ∧
      ((poll config backend.noting source.onNoted).run v).state.bench.calls = v.bench.calls ∧
      ∀ e, ((poll config backend.noting source.onNoted).run v).result ≠ .ok (some e) := by
  obtain ⟨hseen, hq⟩ := h.seen_and_quiet hw hs
  exact ⟨hseen, calls_poll_quiet hq, (run_poll_quiet config backend.noting hq).2.1⟩

/-- A change to a window with a layout is answered by asking for the current group and, if that is another one, by
locking the layout, provided that it is there. -/
theorem calls_poll_tries (ha : source.onNoted.answerTo w = .ok (some window))
    (hc : isChange w.seen (some window) = true) (hl : config.layoutFor window = some g) :
    ∃ rest, ((poll config backend.noting source.onNoted).run w).state.bench.calls =
        w.bench.calls ++ .current :: rest ∧
      ∀ c n, ((Switcher.current backend.noting).run (w.asked source.onNoted).bench).result = .ok c → c ≠ g →
        ((Switcher.available backend.noting).run
          ((Switcher.current backend.noting).run (w.asked source.onNoted).bench).state).result = .ok n → g < n →
        .lock g ∈ rest := by
  obtain ⟨rest, hrest, -⟩ := Switcher.calls_apply backend g (w.asked source.onNoted).bench
  refine ⟨rest, by rw [calls_poll_change backend ha hc hl, hrest, calls_asked], fun c n hcur hcg hav hgn => ?_⟩
  -- the calls after the first are those of `hrest` and of `hlock` at once
  have hlock := Switcher.calls_apply_of_lt hcur hcg hav hgn
  rw [hrest] at hlock
  obtain rfl := (List.cons.inj (List.append_cancel_left hlock)).2
  simp

/-- **A failed switch waits for the next change.** If the switch for a window fails in some poll, in whatever call and
however badly, the window is remembered all the same. Until something that differs from it is observed, no poll calls
the backend or returns an event. The next change to a window with a layout is then served as if nothing had failed:
the backend is asked for the current group, and the layout is locked if another group is current and the layout is
there. -/
theorem failed_switch_waits_for_change (config : Config) (backend : Backend S) (source : Source S) (cycle : List Nat)
    (device : Noted S) {before : List (Watcher (Noted S))} {w : Watcher (Noted S)} {window : Window} {g : Nat}
    {f : Failure}
    (h : Reached config backend.noting source.onNoted (fun _ _ => True) (fresh cycle device) before w)
    (ha : source.onNoted.answerTo w = .ok (some window))
    (hnews : News (before.map source.onNoted.answerTo) (some window)) (hl : config.layoutFor window = some g)
    (hf : ((Switcher.apply backend.noting g).run (w.asked source.onNoted).bench).result = .error f) :
    (((poll config backend.noting source.onNoted).run w).result =
      if f.isProtocol then .ok (some (.changed window)) else .error f) ∧
    (∀ between v,
      Reached config backend.noting source.onNoted (fun _ _ => True) (fresh cycle device) (before ++ w :: between) v →
      (∀ u ∈ between ++ [v], ∀ observed, source.onNoted.answerTo u = .ok observed → ¬Differ (some window) observed) →
      v.seen = some (some window) ∧
        ((poll config backend.noting source.onNoted).run v).state.bench.calls = v.bench.calls ∧
        ∀ e, ((poll config backend.noting source.onNoted).run v).result ≠ .ok (some e)) ∧
    ∀ between v window' g',
      Reached config backend.noting source.onNoted (fun _ _ => True) (fresh cycle device) (before ++ w :: between) v →
      source.onNoted.answerTo v = .ok (some window') →
      News ((before ++ w :: between).map source.onNoted.answerTo) (some window') →
      config.layoutFor window' = some g' →
      ∃ rest, ((poll config backend.noting source.onNoted).run v).state.bench.calls =
          v.bench.calls ++ .current :: rest ∧
        ∀ c n, ((Switcher.current backend.noting).run (v.asked source.onNoted).bench).result = .ok c → c ≠ g' →
          ((Switcher.available backend.noting).run
            ((Switcher.current backend.noting).run (v.asked source.onNoted).bench).state).result = .ok n → g' < n →
          .lock g' ∈ rest := by
  have hc : isChange w.seen (some window) = true := (h.isChange_iff _).mpr hnews
  refine ⟨result_poll_failed ha hc hl hf, fun between v hv hs => ?_, fun between v window' g' hv hav hn hl' => ?_⟩
  · exact hv.not_tried_again (seen_poll_change ha hc) hs
  · exact calls_poll_tries hav ((hv.isChange_iff _).mpr hn) hl'

/-! ## A keyboard that recovers -/

/-- Group 1 for every window. -/
def groupOne : Config := Config.indexed { Config.default with rules := [⟨none, 1⟩] }

/-- A window with the focus and a keyboard of two groups, which can be locked unless there is a failure. -/
def desk (id : Nat) (lockFailure : Option Failure) : Noted (List Reply × Script) :=
  ⟨([⟨.ok (some ⟨id, "tg", "Tg", "telegram"⟩), 0⟩], { Script.default with names := ["us", "ru"], lockFailure }), []⟩

/-- The watcher before a poll in which no group can be locked. -/
def troubled : Watcher (Noted (List Reply × Script)) :=
  fresh [] (desk 10 (some (.protocol "XkbLockGroup")))

/-- The watcher after that poll, when groups can be locked again. -/
def recovered (id : Nat) : Watcher (Noted (List Reply × Script)) :=
  ((poll groupOne (onSecond Script.backend).noting Source.scripted.onFirst.onNoted).run troubled).state.withDevice
    (desk id none)

theorem reached_recovered (id : Nat) :
    Reached groupOne (onSecond Script.backend).noting Source.scripted.onFirst.onNoted (fun _ _ => True) troubled
      [troubled] (recovered id) :=
  .next (.start_undisturbed fun _ => trivial) trivial

/-- The same window again: nothing is called. Another window: its layout is locked. -/
theorem failed_switch_waits_for_change_troubled :
    let again := (poll groupOne (onSecond Script.backend).noting Source.scripted.onFirst.onNoted).run (recovered 10)
    let other := (poll groupOne (onSecond Script.backend).noting Source.scripted.onFirst.onNoted).run (recovered 11)
    again.state.bench.calls = [] ∧
      ∃ rest, other.state.bench.calls = .current :: rest ∧ .lock 1 ∈ rest := by
  intro again other
  have law := failed_switch_waits_for_change groupOne (onSecond Script.backend) Source.scripted.onFirst []
    troubled.bench.device (.start_undisturbed fun _ => trivial) rfl nofun rfl
    (show _ = Except.error (Failure.protocol "XkbLockGroup") from rfl)
  have quiet := law.2.1 [] (recovered 10) (reached_recovered 10) (by
    intro u hu observed ho
    rw [List.mem_singleton.mp hu] at ho
    cases ho
    simp [Differ])
  obtain ⟨rest, hcalls, hlock⟩ := law.2.2 [] (recovered 11) _ 1 (reached_recovered 11) rfl (by
    intro last hl
    cases hl
    exact .inl (by decide)) rfl
  exact ⟨quiet.2.1, rest, hcalls, hlock 0 2 rfl (by decide) rfl (by decide)⟩

/-- Locking fails once with a passing failure, and the next poll, which could lock, is shown the same window again. It
does not even ask for the current group, so the window stays without its layout. -/
theorem failed_switch_not_retried :
    let source : Source (Noted (List Reply × Script)) := Source.scripted.onFirst.onNoted
    let backend := (onSecond Script.backend).noting
    let again := (poll groupOne backend source).run (recovered 10)
    source.answerTo troubled = .ok (some ⟨10, "tg", "Tg", "telegram"⟩) ∧ News [] (some ⟨10, "tg", "Tg", "telegram"⟩) ∧
      groupOne.layoutFor ⟨10, "tg", "Tg", "telegram"⟩ = some 1 ∧
      ((Switcher.apply backend 1).run (troubled.asked source).bench).result = .error (.protocol "XkbLockGroup") ∧
      Reached groupOne backend source (fun _ _ => True) troubled [troubled] (recovered 10) ∧
      source.answerTo (recovered 10) = .ok (some ⟨10, "tg", "Tg", "telegram"⟩) ∧
      again.state.bench.calls = (recovered 10).bench.calls ∧ again.state.bench.device.device.2.group = 0 := by
  intro source backend again
  have hseen : (recovered 10).seen = some (some ⟨10, "tg", "Tg", "telegram"⟩) := seen_poll_change rfl rfl
  have hq : Quiet source (recovered 10) := quiet_of_same rfl (by rw [hseen]; decide)
  have hstate : again.state = (recovered 10).asked source := (run_poll_quiet groupOne backend hq).1
  refine ⟨rfl, nofun, rfl, rfl, reached_recovered 10, rfl, calls_poll_quiet hq, ?_⟩
  rw [hstate]
  rfl

end Watcher

end FocusLayout.Focus
