import FocusLayout.Proofs.Config.Loading
import FocusLayout.Proofs.Focus.Watch

/-!
# When the polls of a watch start

The starts of a watch are those of its schedule (`getElem?_starts_eq_some_iff`). So polls do not overlap, a slow one is
not followed by a burst, and the watch comes back to the multiples of its interval as soon as it is free at one
(`polls_keep_schedule`).
-/

namespace FocusLayout.Focus.Watcher

open Layout (Backend Script)
open Layout.Backend (Noted)

variable {S : Type} {config : Config} {backend : Backend S} {source : Source S} {w : Watcher S} {stop k t : Nat}

/-- Poll `k` starts when the schedule begins it, if that is in time. -/
theorem getElem?_starts_eq_some_iff (hp : 0 < config.watch.pollingIntervalMs) :
    (runUntil config backend source stop w).starts[k]? = some t ↔
      begins config backend source w k = t ∧ t ≤ stop := by
  rw [getElem?_starts_runUntil backend source w hp stop]
  split <;> rename_i h
  · rw [Option.some.injEq]
    exact ⟨fun ht => ⟨ht, ht ▸ h⟩, And.left⟩
  · exact ⟨nofun, fun ⟨hb, ht⟩ => absurd (hb ▸ ht) h⟩

/-- **The schedule of the polls.** In a watch of any length with an interval of at least 50 milliseconds, whatever the
polls do and however long each of them lasts: the first poll starts at once, and no poll starts before those ahead of it
have ended. A poll starts at a multiple of the interval or when the one before it ends, and from one multiple to the
next at most one poll starts. At a multiple at which no poll is running, or at which one ends, a poll starts; if none
lasts longer than the interval, poll `k` starts at the multiple `k`. -/
theorem polls_keep_schedule (config : Config) (hp : 50 ≤ config.watch.pollingIntervalMs) (backend : Backend S)
    (source : Source S) (w : Watcher S) (stop : Nat) :
    let period := config.watch.pollingIntervalMs
    let starts := (runUntil config backend source stop w).starts
    let lasts := lasts config backend source w
    starts[0]? = some 0 ∧
    (∀ i j s t : Nat, i < j → starts[i]? = some s → starts[j]? = some t → s + lasts i ≤ t) ∧
    (∀ k t : Nat, starts[k]? = some t →
      period ∣ t ∨ ∃ i s, k = i + 1 ∧ starts[i]? = some s ∧ t = s + lasts i) ∧
    (∀ m i j s t : Nat, starts[i]? = some s → starts[j]? = some t → m * period ≤ s ∧ s < (m + 1) * period →
      m * period ≤ t ∧ t < (m + 1) * period → i = j) ∧
    (∀ m : Nat, m * period ≤ stop →
      (∀ k s : Nat, starts[k]? = some s → ¬(s < m * period ∧ m * period < s + lasts k)) → m * period ∈ starts) ∧
    ∀ k : Nat, (∀ i < k, lasts i ≤ period) → k * period ≤ stop → starts[k]? = some (k * period) := by
  intro period starts lasts
  have hgrace : Schedule.grace < period := Nat.lt_of_lt_of_le (by decide) hp
  have hpos : 0 < period := Nat.zero_lt_of_lt hgrace
  have hs : ∀ {k t}, starts[k]? = some t ↔ begins config backend source w k = t ∧ t ≤ stop :=
    getElem?_starts_eq_some_iff hpos
  refine ⟨hs.mpr ⟨Schedule.start_zero, Nat.zero_le _⟩, fun i j s t hij hi hj => ?_, fun k t hk => ?_,
    fun m i j s t hi hj hm hm' => ?_, fun m hm hfree => ?_, fun k hshort hk => ?_⟩
  · obtain ⟨rfl, -⟩ := hs.mp hi
    obtain ⟨rfl, -⟩ := hs.mp hj
    exact Schedule.finish_le_start hij
  · obtain ⟨rfl, hle⟩ := hs.mp hk
    refine (Schedule.dvd_start_or_eq_finish hgrace k).imp_right fun ⟨i, hi, hb⟩ => ?_
    have hearlier : begins config backend source w i ≤ begins config backend source w k :=
      Schedule.start_monotone (by omega)
    exact ⟨i, _, hi, hs.mpr ⟨rfl, hearlier.trans hle⟩, hb⟩
  · obtain ⟨rfl, -⟩ := hs.mp hi
    obtain ⟨rfl, -⟩ := hs.mp hj
    have hinjective : Function.Injective fun k => begins config backend source w k / period :=
      (Schedule.start_div_strictMono hgrace).injective
    refine hinjective ?_
    exact (Nat.div_eq_of_lt_le hm.1 hm.2).trans (Nat.div_eq_of_lt_le hm'.1 hm'.2).symm
  · -- polls that begin after the stop are no hindrance either
    have hnone : ∀ k, m * period ≤ begins config backend source w k ∨ ends config backend source w k ≤ m * period := by
      intro k
      by_cases hk : begins config backend source w k ≤ stop
      · have hnot := hfree k _ (hs.mpr ⟨rfl, hk⟩)
        exact (Nat.lt_or_ge _ _).symm.imp_right fun hlt => Nat.le_of_not_lt fun hrun => hnot ⟨hlt, hrun⟩
      · exact .inl (by omega)
    obtain ⟨k, hk⟩ := Schedule.exists_start_eq hgrace hnone
    exact List.mem_of_getElem? (hs.mpr ⟨hk, hm⟩)
  · exact hs.mpr ⟨Schedule.start_eq_mul hgrace k hshort, hk⟩

/-- Polls of the default configuration that last for 749 and 250 milliseconds: the watch is busy at the multiples 250,
500 and 750 of its interval, and its second and third poll follow the ones before them at once. At 1000 it is free
again. -/
theorem polls_keep_schedule_slow :
    let source : Source (List Reply × Backend.Memory) := Source.scripted.onFirst
    let w := fresh [] (([⟨.ok none, 749⟩, ⟨.ok none, 250⟩, ⟨.ok none, 0⟩] : List Reply), Backend.Memory.default)
    let starts := (runUntil Config.default (onSecond Backend.dryRun) source 1250 w).starts
    50 ≤ Config.default.watch.pollingIntervalMs ∧ starts = [0, 749, 999, 1000, 1250] ∧ 1000 ∈ starts := by
  intro source w starts
  have hp : 50 ≤ Config.default.watch.pollingIntervalMs := Config.shortestInterval_le_of_validate rfl
  have hstarts : starts = [0, 749, 999, 1000, 1250] := by decide
  obtain ⟨-, -, -, -, hfree, -⟩ := polls_keep_schedule Config.default hp (onSecond Backend.dryRun) source w 1250
  refine ⟨hp, hstarts, hfree 4 (by decide) fun k s hk => ?_⟩
  have hk' : [0, 749, 999, 1000, 1250][k]? = some s := hstarts ▸ hk
  rcases k with _ | _ | _ | _ | _ | k
  -- each of the five polls ends before 1000 or does not start before it
  all_goals cases hk'
  all_goals decide

end FocusLayout.Focus.Watcher
