import FocusLayout.Failure
import FocusLayout.Log

/-!
# Steps

A `Step S α` is a step of the program: it starts in a state of type `S` and ends in an `Outcome`, which holds a
value or a failure, the state afterwards and the lines logged on the way. Lines are only ever written, so what a
step does cannot depend on the log.

- a failure ends a sequence of steps and keeps the state and the lines up to it (`run_bind_error`);
- `Step.attempt` turns a failure into a value (`run_attempt`);
- `Step.within` runs a step on a part of a larger state.
-/

namespace FocusLayout

/-- What a step leaves behind. -/
structure Outcome (S α : Type) where
  result : Except Failure α
  state : S
  log : List Log.Entry

/-- A step of the program over a state of type `S` with a value of type `α`. -/
def Step (S α : Type) : Type := S → Outcome S α

namespace Step

variable {S T α β : Type}

/-- Runs a step from a state. -/
def run (t : Step S α) (s : S) : Outcome S α := t s

/-- The step that only returns a value. -/
def done (a : α) : Step S α := fun s => ⟨.ok a, s, []⟩

/-- The step that only fails. -/
def fail (f : Failure) : Step S α := fun s => ⟨.error f, s, []⟩

/-- One step after another; the second is left out if the first fails. -/
def andThen (t : Step S α) (k : α → Step S β) : Step S β := fun s =>
  let first := t.run s
  match first.result with
  | .error f => ⟨.error f, first.state, first.log⟩
  | .ok a =>
    let second := (k a).run first.state
    ⟨second.result, second.state, first.log ++ second.log⟩

instance : Monad (Step S) where
  pure := done
  bind := andThen

/-- The state. -/
def state : Step S S := fun s => ⟨.ok s, s, []⟩

/-- Changes the state. -/
def update (f : S → S) : Step S Unit := fun s => ⟨.ok (), f s, []⟩

/-- A function of the state that gives a value and the next state, as a step that never fails. -/
def act (f : S → α × S) : Step S α := fun s =>
  let (a, s) := f s
  ⟨.ok a, s, []⟩

/-- Logs a line. -/
def say (level : Log.Level) (origin : Log.Origin) (text : String) : Step S Unit := fun s =>
  ⟨.ok (), s, [⟨level, origin, text⟩]⟩

/-- Runs a step and hands on how it ended; this never fails. -/
def attempt (t : Step S α) : Step S (Except Failure α) := fun s =>
  let o := t.run s
  ⟨.ok o.result, o.state, o.log⟩

/-- A result that is already known, as a step. -/
def ofExcept : Except Failure α → Step S α
  | .ok a => done a
  | .error f => fail f

/-- Runs a step on the part of the state that `get` reads and `put` writes. -/
def within (get : T → S) (put : S → T → T) (t : Step S α) : Step T α := fun s =>
  let o := t.run (get s)
  ⟨o.result, put o.state s, o.log⟩

/-! ## How a sequence runs -/

@[simp] theorem run_pure (a : α) (s : S) : (pure a : Step S α).run s = ⟨.ok a, s, []⟩ := rfl

@[simp] theorem run_done (a : α) (s : S) : (done a : Step S α).run s = ⟨.ok a, s, []⟩ := rfl

@[simp] theorem run_fail (f : Failure) (s : S) : (fail f : Step S α).run s = ⟨.error f, s, []⟩ := rfl

@[simp] theorem run_state (s : S) : (state : Step S S).run s = ⟨.ok s, s, []⟩ := rfl

@[simp] theorem run_update (f : S → S) (s : S) : (update f).run s = ⟨.ok (), f s, []⟩ := rfl

@[simp] theorem run_act (f : S → α × S) (s : S) : (act f).run s = ⟨.ok (f s).1, (f s).2, []⟩ := rfl

@[simp] theorem run_say (level : Log.Level) (origin : Log.Origin) (text : String) (s : S) :
    (say level origin text).run s = ⟨.ok (), s, [⟨level, origin, text⟩]⟩ := rfl

@[simp] theorem run_attempt (t : Step S α) (s : S) :
    t.attempt.run s = ⟨.ok (t.run s).result, (t.run s).state, (t.run s).log⟩ := rfl

@[simp] theorem run_within (get : T → S) (put : S → T → T) (t : Step S α) (s : T) :
    (t.within get put).run s = ⟨(t.run (get s)).result, put (t.run (get s)).state s, (t.run (get s)).log⟩ := rfl

/-- After a value the second step runs in the state the first one left. -/
theorem run_bind_ok {t : Step S α} {s : S} {a : α} (k : α → Step S β) (h : (t.run s).result = .ok a) :
    (t >>= k).run s =
      ⟨((k a).run (t.run s).state).result, ((k a).run (t.run s).state).state,
        (t.run s).log ++ ((k a).run (t.run s).state).log⟩ := by
  show andThen t k s = _
  simp only [andThen, h]

/-- After a failure the second step does not run. -/
theorem run_bind_error {t : Step S α} {s : S} {f : Failure} (k : α → Step S β)
    (h : (t.run s).result = .error f) :
    (t >>= k).run s = ⟨.error f, (t.run s).state, (t.run s).log⟩ := by
  show andThen t k s = _
  simp only [andThen, h]

/-- A function of the value afterwards. -/
theorem run_bind_pure (t : Step S α) (f : α → β) (s : S) :
    (t >>= fun a => pure (f a)).run s = ⟨(t.run s).result.map f, (t.run s).state, (t.run s).log⟩ := by
  cases hr : (t.run s).result with
  | error failure => rw [run_bind_error _ hr]; rfl
  | ok a => rw [run_bind_ok _ hr, run_pure, List.append_nil]; rfl

/-- Looking at the state first. -/
@[simp] theorem run_bind_state (k : S → Step S β) (s : S) : (state >>= k).run s = (k s).run s := rfl

/-- Changing the state first. -/
@[simp] theorem run_bind_update (f : S → S) (k : Unit → Step S β) (s : S) :
    (update f >>= k).run s = (k ()).run (f s) := rfl

/-- Acting on the state first. -/
@[simp] theorem run_bind_act (f : S → α × S) (k : α → Step S β) (s : S) :
    (act f >>= k).run s = (k (f s).1).run (f s).2 := rfl

/-- A line logged first stands in front of the others. -/
@[simp] theorem run_bind_say (level : Log.Level) (origin : Log.Origin) (text : String) (k : Unit → Step S β)
    (s : S) :
    (say level origin text >>= k).run s =
      ⟨((k ()).run s).result, ((k ()).run s).state, ⟨level, origin, text⟩ :: ((k ()).run s).log⟩ := rfl

/-- An attempt never keeps the second step from running. -/
@[simp] theorem run_bind_attempt (t : Step S α) (k : Except Failure α → Step S β) (s : S) :
    (t.attempt >>= k).run s =
      ⟨((k (t.run s).result).run (t.run s).state).result, ((k (t.run s).result).run (t.run s).state).state,
        (t.run s).log ++ ((k (t.run s).result).run (t.run s).state).log⟩ := rfl

end Step

end FocusLayout
