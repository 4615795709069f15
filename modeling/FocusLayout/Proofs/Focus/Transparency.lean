import FocusLayout.Proofs.Focus.Parts
import FocusLayout.Proofs.Focus.Watch
import Mathlib.Data.Nat.Count

/-!
# Polls in which the source fails

`Source.interrupted` puts failures into a source, at any places and in any number. A watcher then goes through a row of
polls as it does without them (`found_beside`): a poll in which the source fails only counts the question
(`run_poll_interrupted`), and every other poll does what it does without the failures (`run_poll_uninterrupted`).

The count stands beside the device (`Watcher.beside`), so the watcher and its switcher work on a part of a larger
device.
-/

namespace FocusLayout.Focus

open Layout (Backend Bench Script Switcher)
open Layout.Backend (Noted)

variable {S T : Type}

/-! ## A source with failures put in -/

/-- A source that counts the questions put to it. Question `n` fails as `fails n` says; the others are asked of the
source within. -/
def Source.interrupted (fails : Nat → Option Failure) (source : Source S) : Source (Nat × S) where
  name := source.name
  activeWindow := do
    let (n, _) ← Step.state
    Step.update fun device => (n + 1, device.2)
    match fails n with
    | some f => Step.fail f
    | none => source.activeWindow.within Prod.snd fun s device => (device.1, s)
  delay device := if (fails device.1).isSome then 0 else source.delay device.2

namespace Watcher

/-- The watcher beside a number of questions that its source has been asked. -/
def beside (n : Nat) (w : Watcher S) : Watcher (Nat × S) := ⟨w.seen, w.bench.switcher, n, w.bench.device⟩

section Interrupted

variable {fails : Nat → Option Failure} {n : Nat} {w : Watcher S}

theorem run_interrupted_none (source : Source S) (h : fails n = none) (s : S) :
    (source.interrupted fails).activeWindow.run (n, s) =
      ⟨(source.activeWindow.run s).result, (n + 1, (source.activeWindow.run s).state),
        (source.activeWindow.run s).log⟩ := by
  unfold Source.interrupted
  simp only [Step.run_bind_state, Step.run_bind_update, h, Step.run_within]

theorem run_interrupted_some (source : Source S) {f : Failure} (h : fails n = some f) (s : S) :
    (source.interrupted fails).activeWindow.run (n, s) = ⟨.error f, (n + 1, s), []⟩ := by
  unfold Source.interrupted
  simp only [Step.run_bind_state, Step.run_bind_update, h, Step.run_fail]

/-- The answer of a source beside a count is taken in on the device alone. -/
theorem run_poll_beside (config : Config) (backend : Backend S) {counting : Source (Nat × S)} {m : Nat}
    {answer : Answer} {s : S} {log : List Log.Entry}
    (hrun : counting.activeWindow.run (n, w.bench.device) = ⟨answer, (m, s), log⟩) :
    (poll config (onSecond backend) counting).run (w.beside n) =
      let taken := (observe config backend answer).run (w.withDevice s)
      ⟨taken.result, taken.state.beside m, log ++ taken.log⟩ := by
  have ha : counting.answerTo (w.beside n) = answer := congrArg Outcome.result hrun
  have hasked : (w.beside n).asked counting = (w.withDevice s).beside m :=
    congrArg (fun o => Watcher.mk w.seen (Bench.mk w.bench.switcher o.state)) hrun
  have hlog : (counting.activeWindow.run (w.beside n).bench.device).log = log := congrArg Outcome.log hrun
  rw [run_poll, ha, hasked, hlog, onSecond, observe_within config backend Step.isPart_snd]
  rfl

/-- A poll in which the source is asked is a poll without the failures. -/
theorem run_poll_uninterrupted (config : Config) (backend : Backend S) (source : Source S) (h : fails n = none)
    (w : Watcher S) :
    (poll config (onSecond backend) (source.interrupted fails)).run (w.beside n) =
      ⟨((poll config backend source).run w).result, ((poll config backend source).run w).state.beside (n + 1),
        ((poll config backend source).run w).log⟩ :=
  run_poll_beside config backend (run_interrupted_none source h w.bench.device)

/-- A poll in which the source fails only counts the question and warns about a passing failure. -/
theorem run_poll_interrupted (config : Config) (backend : Backend S) (source : Source S) {f : Failure}
    (h : fails n = some f) (w : Watcher S) :
    (poll config (onSecond backend) (source.interrupted fails)).run (w.beside n) =
      ⟨if f.isProtocol then .ok none else .error f, w.beside (n + 1),
        if f.isProtocol then [⟨.warn, .watcher, s!"Окно с фокусом недоступно: {f.message}"⟩] else []⟩ := by
  rw [run_poll_beside config backend (run_interrupted_some source h w.bench.device)]
  cases hf : f.isProtocol with
  | true => rw [run_observe_passing hf]; rfl
  | false => rw [run_observe_failing hf]; rfl

/-- With failures put in, poll `k` of a row finds the watcher as the poll does that comes after as many answers of the
source. -/
theorem found_beside (config : Config) (backend : Backend S) (source : Source S) (fails : Nat → Option Failure)
    (w : Watcher S) (k : Nat) :
    found config (onSecond backend) (source.interrupted fails) (w.beside 0) k =
      (found config backend source w (Nat.count (fun i => fails i = none) k)).beside k := by
  induction k with
  | zero => rfl
  | succ k ih =>
    rw [found_succ, ih, Nat.count_succ]
    cases h : fails k with
    | none => rw [if_pos rfl, run_poll_uninterrupted config backend source h, found_succ]
    | some f =>
      rw [if_neg (Option.some_ne_none f), run_poll_interrupted config backend source h]
      rfl

end Interrupted

/-- **Polls in which the source fails are transparent.** Take a watcher of any configuration over any backend and any
source, and put failures into the source at any places and in any number. Whatever poll of the row one looks at, the
watcher has come to it with the same remembered window, the same switcher and the same device, calls included, as to
the poll without the failures that comes after as many answers of the source. If the source is asked, the two polls
have the same result, the same log and the same effect. If it fails, the poll calls nothing and changes nothing; it
returns no event if the failure is a passing one and the failure itself otherwise. -/
theorem failing_polls_transparent (config : Config) (backend : Backend S) (source : Source S)
    (fails : Nat → Option Failure) (w : Watcher (Noted S)) (k : Nat) :
    let plain := found config backend.noting source.onNoted w (Nat.count (fun i => fails i = none) k)
    let broken := found config (onSecond backend.noting) (source.onNoted.interrupted fails) (w.beside 0) k
    let polled := (poll config (onSecond backend.noting) (source.onNoted.interrupted fails)).run broken
    broken = plain.beside k ∧
    (fails k = none →
      polled.result = ((poll config backend.noting source.onNoted).run plain).result ∧
      polled.state = ((poll config backend.noting source.onNoted).run plain).state.beside (k + 1) ∧
      polled.log = ((poll config backend.noting source.onNoted).run plain).log) ∧
    ∀ f, fails k = some f →
      polled.result = (if f.isProtocol then .ok none else .error f) ∧
      polled.state = plain.beside (k + 1) ∧
      polled.state.bench.device.2.calls = broken.bench.device.2.calls := by
  intro plain broken polled
  have hbroken : broken = plain.beside k := found_beside config backend.noting source.onNoted fails w k
  refine ⟨hbroken, fun h => ?_, fun f h => ?_⟩
  · have hpolled := run_poll_uninterrupted config backend.noting source.onNoted h plain
    rw [← hbroken] at hpolled
    exact ⟨congrArg Outcome.result hpolled, congrArg Outcome.state hpolled, congrArg Outcome.log hpolled⟩
  · have hpolled := run_poll_interrupted config backend.noting source.onNoted h plain
    rw [← hbroken] at hpolled
    have hstate : polled.state = plain.beside (k + 1) := congrArg Outcome.state hpolled
    refine ⟨congrArg Outcome.result hpolled, hstate, ?_⟩
    rw [hstate, hbroken]
    rfl

/-- A source that fails before its first answer and between the first and the second. -/
def outages : Nat → Option Failure
  | 0 => some (.protocol "XGetInputFocus")
  | 2 => some (.serviceUnavailable "X")
  | _ => none

/-- The window is still a change after the first failure, and no change again after the second. -/
theorem failing_polls_transparent_outages :
    let backend := (onSecond Script.backend).noting
    let source : Source (Nat × Noted (List Reply × Script)) := Source.scripted.onFirst.onNoted.interrupted outages
    let broken := found groupOne (onSecond backend) source ((fresh [] (desk 10 none)).beside 0)
    let polled := fun k => (poll groupOne (onSecond backend) source).run (broken k)
    (polled 0).result = .ok none ∧
      (polled 1).result = .ok (some (.changed ⟨10, "tg", "Tg", "telegram"⟩)) ∧
      (polled 2).result = .error (.serviceUnavailable "X") ∧
      (polled 3).result = .ok none ∧
      (broken 4).bench.device.2.calls = [.current, .names, .lock 1] := by
  intro backend source broken polled
  have law := failing_polls_transparent groupOne (onSecond Script.backend) Source.scripted.onFirst outages
    (fresh [] (desk 10 none))
  have hfound : broken 4 =
      (found groupOne backend Source.scripted.onFirst.onNoted (fresh [] (desk 10 none)) 2).beside 4 := (law 4).1
  refine ⟨((law 0).2.2 _ rfl).1, ?_, ((law 2).2.2 _ rfl).1, ?_, ?_⟩
  · exact ((law 1).2.1 rfl).1.trans rfl
  · exact ((law 3).2.1 rfl).1.trans rfl
  · rw [hfound]; rfl

end Watcher

end FocusLayout.Focus
