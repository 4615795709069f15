import FocusLayout.Focus.Watcher

/-!
# When polls happen

A watch polls at once and then at each multiple of its period. A poll that is due while another still runs starts as
soon as that one ends, and the next one is then due at the first multiple after that moment (`nextDue`).

`Watcher.runUntil` is a watch up to a point in time, in milliseconds from its beginning.
-/

namespace FocusLayout.Focus

namespace Schedule

/-- How late a poll may be, in milliseconds, without the schedule taking notice. -/
def grace : Nat := 5

/-- When the poll after one is due that was due at `due` and started at `start`. -/
def nextDue (period due start : Nat) : Nat :=
  if due + grace < start then start + period - (start - due) % period else due + period

/-- A number of milliseconds as it is shown: in seconds from the first full one on. -/
def showMilliseconds (n : Nat) : String :=
  if n = 0 then "0ns"
  else if n < 1000 then s!"{n}ms"
  else
    let digits := (Nat.toDigits 10 (1000 + n % 1000)).tail.reverse.dropWhile (· == '0')
    if digits.isEmpty then s!"{n / 1000}s"
    else toString (n / 1000) ++ "." ++ String.ofList digits.reverse ++ "s"

end Schedule

/-- What a watch has done by some time: when its polls started, and what they left behind. -/
structure Watched (S : Type) where
  starts : List Nat
  watcher : Watcher S
  log : List Log.Entry

namespace Watcher

variable {S : Type} (config : Config) (backend : Layout.Backend S) (source : Source S)

/-- The polls of a watch from a moment on, at most `fuel` of them. A poll that does not end in time has started but
has done nothing yet. -/
def runFrom (stop : Nat) : (fuel now due : Nat) → Watcher S → Watched S
  | 0, _, _, w => ⟨[], w, []⟩
  | fuel + 1, now, due, w =>
    let start := max now due
    let finish := start + source.delay w.bench.device
    if stop < start then ⟨[], w, []⟩
    else if stop < finish then ⟨[start], w, []⟩
    else
      let polled := (pollOn config backend source).run w
      let rest := runFrom stop fuel finish (Schedule.nextDue config.watch.pollingIntervalMs due start) polled.state
      ⟨start :: rest.starts, rest.watcher, polled.log ++ rest.log⟩

/-- The line that a watch begins with. -/
def announce : Step (Watcher S) Unit :=
  Step.say .info .watcher
    ("FocusWatcher запущен, интервал опроса " ++ Schedule.showMilliseconds config.watch.pollingIntervalMs)

/-- A watch up to a time. Each poll is due at least a millisecond after the one before, so there are no more of them
than milliseconds. -/
def runUntil (stop : Nat) (w : Watcher S) : Watched S :=
  let begun := (announce config).run w
  let polls := runFrom config backend source stop (stop + 1) 0 0 begun.state
  { polls with log := begun.log ++ polls.log }

end Watcher

end FocusLayout.Focus
