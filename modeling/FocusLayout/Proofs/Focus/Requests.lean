import FocusLayout.Proofs.Focus.Recovery

/-!
# What the watcher asks of its backend

A poll calls the backend only if it sees a change to a window with a layout (`Demands`). Its calls then are those of
bringing the layout into effect, and no other group is ever locked. So between two changes of the focus the keyboard is
left to the user.
-/

namespace FocusLayout.Focus.Watcher

open Layout (Backend Script Switcher)
open Layout.Backend (Noted Call)

variable {S : Type}

/-- After some polls, the poll that finds the watcher so observes a change to a window, and that window has layout
`g`. -/
def Demands (config : Config) (source : Source S) (earlier : List (Watcher S)) (w : Watcher S) (window : Window)
    (g : Nat) : Prop :=
  source.answerTo w = .ok (some window) ∧ News (earlier.map source.answerTo) (some window) ∧
    config.layoutFor window = some g

section Demands

variable {config : Config} {backend : Backend S} {source : Source S} {cycle : List Nat}
  {earlier : List (Watcher (Noted S))} {w : Watcher (Noted S)} {device : Noted S} {window window' : Window} {g g' : Nat}

theorem Demands.unique (h : Demands config source.onNoted earlier w window g)
    (h' : Demands config source.onNoted earlier w window' g') : window' = window ∧ g' = g := by
  obtain ⟨ha, -, hl⟩ := h
  obtain ⟨ha', -, hl'⟩ := h'
  obtain rfl : window' = window := Option.some.inj (Except.ok.inj (ha'.symm.trans ha))
  exact ⟨rfl, Option.some.inj (hl'.symm.trans hl)⟩

/-- A poll that is to bring a layout into effect calls just what that takes. -/
theorem Reached.calls_of_demands
    (h : Reached config backend.noting source.onNoted (fun _ _ => True) (fresh cycle device) earlier w)
    (hd : Demands config source.onNoted earlier w window g) :
    ((poll config backend.noting source.onNoted).run w).state.bench.calls =
      ((Switcher.apply backend.noting g).run (w.asked source.onNoted).bench).state.calls :=
  calls_poll_change backend hd.1 ((h.isChange_iff _).mpr hd.2.1) hd.2.2

/-- Any other poll calls nothing. -/
theorem Reached.calls_of_not_demands
    (h : Reached config backend.noting source.onNoted (fun _ _ => True) (fresh cycle device) earlier w)
    (hd : ¬∃ window g, Demands config source.onNoted earlier w window g) :
    ((poll config backend.noting source.onNoted).run w).state.bench.calls = w.bench.calls := by
  refine calls_poll_idle backend fun window ha hc => ?_
  cases hl : config.layoutFor window with
  | none => rfl
  | some g => exact absurd ⟨window, g, ha, (h.isChange_iff _).mp hc, hl⟩ hd

end Demands

/-- Which group is locked can be read off a beginning of the calls that bring a group into effect. -/
theorem eq_of_lock_mem {bench : Layout.Bench (Noted S)} {made : List Call} {g g' : Nat}
    (h : made <+: .current :: (bench.namesCalls ++ [.lock g])) (hm : .lock g' ∈ made) : g' = g := by
  rcases List.mem_cons.mp (h.subset hm) with hcurrent | hrest
  · cases hcurrent
  rcases List.mem_append.mp hrest with hnames | hlock
  · cases Layout.eq_names_of_mem_namesCalls hnames
  · exact Call.lock.inj (List.mem_singleton.mp hlock)

/-- **The watcher acts only on changes of the focus.** Consider any poll of a run, whatever others do to the device
between the polls.

- It calls the backend if and only if it observes a change to a window that has a layout. It then calls `current`,
  then `names` if they are not known, then `lock` with just that layout, or a beginning of this; and more than
  `current` only if that answered another group. The line about the switch takes no further call. No other group is
  locked.
- After an observation, as long as nothing is observed that differs from it, a poll does nothing but ask the source:
  a group that the user has chosen in the meantime stays. -/
theorem acts_only_on_changes (config : Config) (backend : Backend S) (source : Source S) (cycle : List Nat)
    (device : Noted S) {before : List (Watcher (Noted S))} {w : Watcher (Noted S)}
    (h : Reached config backend.noting source.onNoted (fun _ _ => True) (fresh cycle device) before w) :
    (∃ made, ((poll config backend.noting source.onNoted).run w).state.bench.calls = w.bench.calls ++ made ∧
      (made ≠ [] ↔ ∃ window g, Demands config source.onNoted before w window g) ∧
      (∀ window g, Demands config source.onNoted before w window g →
        made <+: .current :: (w.bench.namesCalls ++ [.lock g]) ∧
        (made ≠ [.current] →
          ∃ c, ((Switcher.current backend.noting).run (w.asked source.onNoted).bench).result = .ok c ∧ c ≠ g) ∧
        ((poll config backend.noting source.onNoted).run w).state.bench.calls =
          ((Switcher.apply backend.noting g).run (w.asked source.onNoted).bench).state.calls) ∧
      ∀ g, .lock g ∈ made → ∃ window, Demands config source.onNoted before w window g) ∧
    ∀ between v observed,
      Reached config backend.noting source.onNoted (fun _ _ => True) (fresh cycle device) (before ++ w :: between) v →
      source.onNoted.answerTo w = .ok observed →
      (∀ u ∈ between ++ [v], ∀ observed', source.onNoted.answerTo u = .ok observed' → ¬Differ observed observed') →
      ((poll config backend.noting source.onNoted).run v).state = v.asked source.onNoted ∧
        (v.asked source.onNoted).bench.calls = v.bench.calls := by
  refine ⟨?_, fun between v observed hv ha hs => ?_⟩
  · by_cases hd : ∃ window g, Demands config source.onNoted before w window g
    · have hdemands := hd
      obtain ⟨window, g, hd⟩ := hd
      have hcalls := h.calls_of_demands hd
      obtain ⟨rest, hrest, hprefix, hother⟩ := Switcher.calls_apply backend g (w.asked source.onNoted).bench
      have hmade : .current :: rest <+: .current :: (w.bench.namesCalls ++ [.lock g]) :=
        (List.prefix_cons_inj _).mpr hprefix
      refine ⟨.current :: rest, by rw [hcalls, hrest, calls_asked], iff_of_true (List.cons_ne_nil _ _) hdemands,
        fun window' g' hd' => ?_, fun g' hg' => ⟨window, eq_of_lock_mem hmade hg' ▸ hd⟩⟩
      obtain ⟨rfl, rfl⟩ := hd.unique hd'
      exact ⟨hmade, fun hne => hother fun he => hne (he ▸ rfl), hcalls⟩
    · refine ⟨[], by rw [h.calls_of_not_demands hd, List.append_nil], iff_of_false (fun hne => hne rfl) hd,
        fun window g hd' => absurd ⟨window, g, hd'⟩ hd, nofun⟩
  · exact ⟨(run_poll_quiet config backend.noting (hv.quiet_of_unchanged ha hs)).1, calls_asked⟩

/-! ## A user who switches back -/

/-- The watcher after it has locked group 1 for a window and the user has gone back to group 0. -/
def switchedBack : Watcher (Noted (List Reply × Script)) :=
  let polled := ((poll groupOne (onSecond Script.backend).noting Source.scripted.onFirst.onNoted).run
    (fresh [] (desk 10 none))).state
  polled.withDevice { polled.bench.device with
    device := (polled.bench.device.device.1, { polled.bench.device.device.2 with group := 0 }) }

/-- The window gets its layout once. The user's group 0 stays while the window keeps the focus. -/
theorem acts_only_on_changes_switchedBack :
    let source : Source (Noted (List Reply × Script)) := Source.scripted.onFirst.onNoted
    let poll := poll groupOne (onSecond Script.backend).noting source
    (∃ window, Demands groupOne source [] (fresh [] (desk 10 none)) window 1) ∧
      (poll.run (fresh [] (desk 10 none))).state.bench.calls = [.current, .names, .lock 1] ∧
      (poll.run switchedBack).state.bench.calls = [.current, .names, .lock 1] ∧
      (poll.run switchedBack).state.bench.device.device.2.group = 0 := by
  intro source poll
  obtain ⟨⟨made, hmade, -, -, hlocks⟩, hquiet⟩ := acts_only_on_changes groupOne (onSecond Script.backend)
    Source.scripted.onFirst [] (desk 10 none) (.start_undisturbed fun _ => trivial)
  have hcalls : (poll.run (fresh [] (desk 10 none))).state.bench.calls = [.current, .names, .lock 1] := rfl
  obtain rfl : made = [.current, .names, .lock 1] := hmade.symm.trans hcalls
  obtain ⟨hstate, hsame⟩ := hquiet [] switchedBack _ (.next (.start_undisturbed fun _ => trivial) trivial) rfl (by
    intro u hu observed ho
    rw [List.mem_singleton.mp hu] at ho
    cases ho
    simp [Differ])
  refine ⟨hlocks 1 (by simp), hcalls, ?_, ?_⟩
  · rw [hstate]; exact hsame
  · rw [hstate]; rfl

end FocusLayout.Focus.Watcher
