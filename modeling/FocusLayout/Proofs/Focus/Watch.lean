import FocusLayout.Layout.Script
import FocusLayout.Proofs.Focus.Recovery
import FocusLayout.Proofs.Focus.Run
import FocusLayout.Proofs.Focus.Schedule
import Mathlib.Logic.Function.Iterate

/-!
# A watch polls again and again

`found` is the watcher as each of a row of polls finds it, `told` what that poll logs, and `begins` and `ends` are its
times in a watch without end. A watch up to some time comes to each of these polls in turn (`arrived`), so that

- it starts the polls that begin by then (`getElem?_starts_runUntil`);
- those of them that have ended by then leave behind what as many polls in a row leave behind (`ended_runUntil`).

A poll that still waits for its source has done nothing.
-/

namespace FocusLayout.Focus.Watcher

open Layout (Backend Script)
open Layout.Backend (Noted)

variable {S : Type}

/-! ## Polls in a row -/

section Row

variable (config : Config) (backend : Backend S) (source : Source S) (w : Watcher S)

/-- The watcher as poll `k` of a row finds it, whatever the polls before it ended in. -/
def found (k : Nat) : Watcher S :=
  (fun w => ((poll config backend source).run w).state)^[k] w

/-- How long poll `k` of a row takes. -/
def lasts (k : Nat) : Nat := source.delay (found config backend source w k).bench.device

/-- When a watch without end begins poll `k`. -/
def begins (k : Nat) : Nat := Schedule.start config.watch.pollingIntervalMs (lasts config backend source w) k

/-- When that poll ends. -/
def ends (k : Nat) : Nat := Schedule.finish config.watch.pollingIntervalMs (lasts config backend source w) k

/-- The line about a poll that has failed. -/
def complaint : Except Failure (Option FocusEvent) → List Log.Entry
  | .ok _ => []
  | .error f => [⟨.error, .watcher, s!"Ошибка опроса фокуса: {f.message}"⟩]

/-- What poll `k` of a row logs, and the line about it if it fails. -/
def told (k : Nat) : List Log.Entry :=
  let polled := (poll config backend source).run (found config backend source w k)
  polled.log ++ complaint polled.result

variable {config backend source w}

theorem found_succ (k : Nat) :
    found config backend source w (k + 1) =
      ((poll config backend source).run (found config backend source w k)).state :=
  Function.iterate_succ_apply' _ _ _

/-- A poll of a watch does what a poll does, and adds the line about its failure. -/
theorem run_pollOn (w : Watcher S) :
    (pollOn config backend source).run w =
      ⟨.ok (), ((poll config backend source).run w).state,
        ((poll config backend source).run w).log ++ complaint ((poll config backend source).run w).result⟩ := by
  unfold pollOn
  rw [Step.run_bind_attempt]
  cases ((poll config backend source).run w).result with
  | ok event => rw [Step.run_done]; rfl
  | error f => rw [Step.run_say]; rfl

end Row

/-! ## From one poll on -/

/-- What a watch does up to the stop once it waits for poll `k` of a row. -/
def arrived (config : Config) (backend : Backend S) (source : Source S) (w : Watcher S) (stop fuel k : Nat) :
    Watched S :=
  let t := Schedule.wait config.watch.pollingIntervalMs (lasts config backend source w) k
  runFrom config backend source stop fuel t.since t.due (found config backend source w k)

section Arrived

variable {config : Config} {backend : Backend S} {source : Source S} {w : Watcher S} {stop fuel k : Nat}

/-- A poll that does not begin in time. -/
theorem arrived_of_lt_begins (h : stop < begins config backend source w k) :
    arrived config backend source w stop (fuel + 1) k = ⟨[], found config backend source w k, []⟩ :=
  if_pos h

/-- A poll that begins in time but does not end in time. -/
theorem arrived_of_lt_ends (h : begins config backend source w k ≤ stop) (he : stop < ends config backend source w k) :
    arrived config backend source w stop (fuel + 1) k =
      ⟨[begins config backend source w k], found config backend source w k, []⟩ :=
  (if_neg (Nat.not_lt.mpr h)).trans (if_pos he)

/-- A poll that ends in time is followed by the next one. -/
theorem arrived_of_ends_le (he : ends config backend source w k ≤ stop) :
    arrived config backend source w stop (fuel + 1) k =
      let rest := arrived config backend source w stop fuel (k + 1)
      ⟨begins config backend source w k :: rest.starts, rest.watcher, told config backend source w k ++ rest.log⟩ := by
  have h : begins config backend source w k ≤ stop := (Schedule.start_le_finish k).trans he
  refine (if_neg (Nat.not_lt.mpr h)).trans ((if_neg (Nat.not_lt.mpr he)).trans ?_)
  unfold arrived
  rw [found_succ, run_pollOn]
  rfl

/-- The polls that it starts are those that begin by the stop. -/
theorem getElem?_starts_arrived (hp : 0 < config.watch.pollingIntervalMs) (hfuel : stop < k + fuel) (i : Nat) :
    (arrived config backend source w stop fuel k).starts[i]? =
      if begins config backend source w (k + i) ≤ stop then some (begins config backend source w (k + i))
      else none := by
  induction fuel generalizing k i with
  | zero =>
    have hlate : k + i ≤ begins config backend source w (k + i) := Schedule.le_start hp (k + i)
    exact (if_neg (by omega)).symm
  | succ fuel ih =>
    by_cases h : stop < begins config backend source w k
    · have hlater : begins config backend source w k ≤ begins config backend source w (k + i) :=
        Schedule.start_monotone (Nat.le_add_right k i)
      rw [arrived_of_lt_begins h, if_neg (by omega)]
      rfl
    by_cases he : stop < ends config backend source w k
    · rw [arrived_of_lt_ends (Nat.not_lt.mp h) he]
      cases i with
      | zero => exact (if_pos (Nat.not_lt.mp h)).symm
      | succ i =>
        have hlater : ends config backend source w k ≤ begins config backend source w (k + (i + 1)) :=
          Schedule.finish_le_start (by omega)
        rw [if_neg (by omega)]
        rfl
    · rw [arrived_of_ends_le (Nat.not_lt.mp he)]
      cases i with
      | zero => exact (if_pos (Nat.not_lt.mp h)).symm
      | succ i =>
        rw [← Nat.add_assoc, Nat.add_right_comm]
        exact ih (by omega) i

/-- The polls that have ended by the stop have done what they do in a row, and no other poll has done anything. -/
theorem ended_arrived (backend : Backend S) (source : Source S) (w : Watcher S)
    (hp : 0 < config.watch.pollingIntervalMs) (hfuel : stop < k + fuel) :
    ∃ n, (∀ i, i < n ↔ ends config backend source w (k + i) ≤ stop) ∧
      (arrived config backend source w stop fuel k).watcher = found config backend source w (k + n) ∧
      (arrived config backend source w stop fuel k).log =
        (List.range' k n).flatMap (told config backend source w) := by
  induction fuel generalizing k with
  | zero =>
    refine ⟨0, fun i => ?_, rfl, rfl⟩
    have hlate : k + i ≤ begins config backend source w (k + i) := Schedule.le_start hp (k + i)
    have hends : begins config backend source w (k + i) ≤ ends config backend source w (k + i) :=
      Schedule.start_le_finish _
    omega
  | succ fuel ih =>
    by_cases he : stop < ends config backend source w k
    · refine ⟨0, fun i => ?_, ?_⟩
      · have hlater : ends config backend source w k ≤ ends config backend source w (k + i) :=
          Schedule.finish_monotone (Nat.le_add_right k i)
        omega
      · by_cases h : stop < begins config backend source w k
        · rw [arrived_of_lt_begins h]
          exact ⟨rfl, rfl⟩
        · rw [arrived_of_lt_ends (Nat.not_lt.mp h) he]
          exact ⟨rfl, rfl⟩
    · have hfuel' : stop < k + 1 + fuel := by omega
      obtain ⟨n, hn, hw, hl⟩ := ih hfuel'
      rw [arrived_of_ends_le (Nat.not_lt.mp he)]
      refine ⟨n + 1, fun i => ?_, ?_, ?_⟩
      · cases i with
        | zero => exact iff_of_true (Nat.succ_pos n) (Nat.not_lt.mp he)
        | succ i => rw [Nat.succ_lt_succ_iff, hn, Nat.add_assoc, Nat.add_comm 1]
      · rw [Nat.add_comm n, ← Nat.add_assoc]
        exact hw
      · rw [List.range'_succ, List.flatMap_cons]
        exact congrArg _ hl

end Arrived

/-! ## Up to a time -/

section Until

/-- The line that a watch begins with. -/
def announcement (config : Config) : Log.Entry :=
  ⟨.info, .watcher,
    "FocusWatcher запущен, интервал опроса " ++ Schedule.showMilliseconds config.watch.pollingIntervalMs⟩

variable {config : Config} {backend : Backend S} {source : Source S} {w : Watcher S}

/-- A watch waits for the first poll and has room for all that can begin by the stop. -/
theorem runUntil_eq (stop : Nat) :
    runUntil config backend source stop w =
      { arrived config backend source w stop (stop + 1) 0 with
        log := announcement config :: (arrived config backend source w stop (stop + 1) 0).log } := rfl

/-- Poll `k` is started if it begins by the stop. -/
theorem getElem?_starts_runUntil (backend : Backend S) (source : Source S) (w : Watcher S)
    (hp : 0 < config.watch.pollingIntervalMs) (stop k : Nat) :
    (runUntil config backend source stop w).starts[k]? =
      if begins config backend source w k ≤ stop then some (begins config backend source w k) else none := by
  rw [runUntil_eq]
  dsimp only
  rw [getElem?_starts_arrived hp (by omega), Nat.zero_add]

/-- What is left behind comes from the polls that have ended by the stop. -/
theorem ended_runUntil (backend : Backend S) (source : Source S) (w : Watcher S)
    (hp : 0 < config.watch.pollingIntervalMs) (stop : Nat) :
    ∃ n, (∀ k, k < n ↔ ends config backend source w k ≤ stop) ∧
      (runUntil config backend source stop w).watcher = found config backend source w n ∧
      (runUntil config backend source stop w).log =
        announcement config :: (List.range n).flatMap (told config backend source w) := by
  have hfuel : stop < 0 + (stop + 1) := by omega
  obtain ⟨n, hn, hw, hl⟩ := ended_arrived backend source w hp hfuel
  simp only [Nat.zero_add] at hn hw
  rw [runUntil_eq]
  exact ⟨n, hn, hw, by rw [List.range_eq_range']; exact congrArg _ hl⟩

/-- At most one of the polls that have been started has not ended. -/
theorem length_starts_runUntil (hp : 0 < config.watch.pollingIntervalMs) {stop n : Nat}
    (hn : ∀ k, k < n ↔ ends config backend source w k ≤ stop) :
    n ≤ (runUntil config backend source stop w).starts.length ∧
      (runUntil config backend source stop w).starts.length ≤ n + 1 := by
  have hs := getElem?_starts_runUntil backend source w hp stop
  constructor
  · cases n with
    | zero => exact Nat.zero_le _
    | succ n =>
      -- the last poll that has ended began
      have hb := (Schedule.start_le_finish n).trans ((hn n).mp (Nat.lt_succ_self n))
      have hlast := (hs n).trans (if_pos hb)
      exact (List.getElem?_eq_some_iff.mp hlast).1
  · -- the poll after the first that has not ended did not begin
    have hnot := mt (hn n).mpr (Nat.lt_irrefl n)
    have hnext : ends config backend source w n ≤ begins config backend source w (n + 1) :=
      Schedule.finish_le_start (Nat.lt_succ_self n)
    exact List.getElem?_eq_none_iff.mp ((hs (n + 1)).trans (if_neg (by omega)))

/-- **A watch polls again and again.** A watch of any configuration with a polling interval, over any backend and any
source, does the following up to any time. It starts the polls that its schedule begins by then, however badly the
polls before them fail. Of these only the last may not have ended: it still waits for its source and has done nothing.
From the others stem the watcher with its device, and with all calls that the device keeps a record of, as they are
after as many polls in a row, and the log after its first line: that of these polls, with one line more for each that
failed. -/
theorem watch_repeats_polls (config : Config) (hp : 0 < config.watch.pollingIntervalMs) (backend : Backend S)
    (source : Source S) (w : Watcher S) (stop : Nat) :
    let watched := runUntil config backend source stop w
    let begins := begins config backend source w
    let ends := ends config backend source w
    (∀ k, watched.starts[k]? = if begins k ≤ stop then some (begins k) else none) ∧
    ∃ n, (∀ k, k < n ↔ ends k ≤ stop) ∧ n ≤ watched.starts.length ∧ watched.starts.length ≤ n + 1 ∧
      watched.watcher = found config backend source w n ∧
      watched.log = announcement config :: (List.range n).flatMap fun k =>
        let polled := (poll config backend source).run (found config backend source w k)
        polled.log ++ complaint polled.result := by
  intro watched begins ends
  obtain ⟨n, hn, hw, hl⟩ := ended_runUntil backend source w hp stop
  obtain ⟨hle, hge⟩ := length_starts_runUntil hp hn
  exact ⟨getElem?_starts_runUntil backend source w hp stop, n, hn, hle, hge, hw, hl⟩

end Until

/-! ## A source that takes its time -/

/-- A window that gets group 1, then a failure that lasts longer than the polling interval, then no window. -/
def restless : Watcher (Noted (List Reply × Script)) :=
  fresh [] ⟨([⟨.ok (some ⟨10, "tg", "Tg", "telegram"⟩), 0⟩, ⟨.error (.serviceUnavailable "XKB"), 300⟩, ⟨.ok none, 0⟩],
    { Script.default with names := ["us", "ru"] }), []⟩

/-- Neither the failure nor its length keeps the third poll from starting and from reporting the loss of the focus. -/
theorem watch_repeats_polls_restless :
    let watched := runUntil groupOne (onSecond Script.backend).noting Source.scripted.onFirst.onNoted 600 restless
    watched.starts[2]? = some 550 ∧ watched.watcher.seen = some none ∧
      watched.watcher.bench.calls = [.current, .names, .lock 1] := by
  intro watched
  obtain ⟨hstarts, n, hn, -, -, hw, -⟩ := watch_repeats_polls groupOne (by decide) (onSecond Script.backend).noting
    Source.scripted.onFirst.onNoted restless 600
  have h₂ : 2 < n := (hn 2).mpr (by decide)
  have h₃ : ¬3 < n := mt (hn 3).mp (by decide)
  obtain rfl : n = 3 := by omega
  refine ⟨(hstarts 2).trans (by decide), ?_, ?_⟩
  · rw [hw]; rfl
  · rw [hw]; rfl

/-- A window that gets group 1, shown only after so many milliseconds. -/
def slow (delay : Nat) : Watcher (Noted (List Reply × Script)) :=
  fresh [] ⟨([⟨.ok (some ⟨10, "tg", "Tg", "telegram"⟩), delay⟩], { Script.default with names := ["us", "ru"] }), []⟩

/-- A poll that has started need not have done what a poll does: it may still wait for its source. And what a poll logs
is not all of the log, even if that poll is the only one and has ended: the watch begins with a line of its own. -/
theorem started_poll_not_done :
    let backend := (onSecond Script.backend).noting
    let source : Source (Noted (List Reply × Script)) := Source.scripted.onFirst.onNoted
    let watched := fun delay => runUntil groupOne backend source 100 (slow delay)
    ((watched 5000).starts = [0] ∧
      (watched 5000).watcher ≠ found groupOne backend source (slow 5000) (watched 5000).starts.length) ∧
    ((watched 0).starts = [0] ∧
      (watched 0).log ≠
        (List.range (watched 0).starts.length).flatMap (told groupOne backend source (slow 0))) := by
  intro backend source watched
  have hquick : (watched 0).starts = [0] := rfl
  refine ⟨⟨rfl, fun h => ?_⟩, hquick, fun h => ?_⟩
  · have hseen : none = some (some _) := congrArg Watcher.seen h
    cases hseen
  · have hp : 0 < groupOne.watch.pollingIntervalMs := by decide
    obtain ⟨n, hn, -, hl⟩ := ended_runUntil backend source (slow 0) hp 100
    have h₀ : 0 < n := (hn 0).mpr (by decide)
    have h₁ : ¬1 < n := mt (hn 1).mp (by decide)
    obtain rfl : n = 1 := by omega
    rw [hquick] at h
    exact List.cons_ne_self _ _ (hl.symm.trans h)

end FocusLayout.Focus.Watcher
