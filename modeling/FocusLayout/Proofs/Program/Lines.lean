import FocusLayout.Program.Run
import FocusLayout.Proofs.Display.Connection
import FocusLayout.Proofs.Layout.Switching
import FocusLayout.Proofs.Program.Parts
import FocusLayout.Proofs.Program.Sharing

/-!
# Who writes which lines

All parts of the program but its commands write under their own origin (`Log.Entry.IsInner`): the watcher and the
switcher (`inner_pollTimes`), everything that works on a display (`Connection.inner_focusedWindow`,
`Connection.inner_backend`, ...), and the dry run. So a line of the commands can only come from where they write it. For
the warning about stray errors this is the end of a watch (`mem_log_endWatch`): no line before that is one
(`routine_introduce`, `routine_display`, `routine_watch`).
-/

namespace FocusLayout

open Step (Logs)

/-- The line is from another part of the program than its commands. -/
def Log.Entry.IsInner (line : Log.Entry) : Prop := line.origin ≠ .program

variable {S T σ : Type}

/-! ## Watching -/

namespace Layout

/-- Every line that a call of the backend logs satisfies the condition. -/
structure Backend.Logs (P : Log.Entry → Prop) (b : Backend S) : Prop where
  current : b.current.Logs P
  lock (group : Nat) : (b.lock group).Logs P
  names : b.names.Logs P

theorem Backend.Logs.within {P : Log.Entry → Prop} {b : Backend S} (h : b.Logs P) (get : T → S) (put : S → T → T) :
    (b.within get put).Logs P where
  current := h.current.within get put
  lock group := (h.lock group).within get put
  names := h.names.within get put

theorem Switcher.inner_of_writes {b : Backend S} (h : b.Logs Log.Entry.IsInner) {line : Log.Entry}
    (hl : Switcher.Writes b line) : line.IsInner := by
  rcases hl with ho | ⟨s, hl | ⟨group, hl⟩ | hl⟩
  · unfold Log.Entry.IsInner
    rw [ho]
    exact nofun
  · exact h.current s line hl
  · exact h.lock group s line hl
  · exact h.names s line hl

end Layout

namespace Focus.Watcher

open Layout (Backend Switcher)

variable (config : Config) {backend : Backend S} {source : Source S} (h : backend.Logs Log.Entry.IsInner)

include h

theorem inner_switchFor (window : Window) : (switchFor config backend window).Logs Log.Entry.IsInner := by
  unfold switchFor
  cases config.layoutFor window with
  | none => exact Logs.say nofun
  | some group =>
    have happly := (Switcher.logs_apply group).mono fun _ => Switcher.inner_of_writes h
    have hdescribe := (Switcher.logs_describe group).mono fun _ => Switcher.inner_of_writes h
    refine (happly.within Watcher.bench _).attempt.bind fun answer => ?_
    rcases answer with f | _ | _
    · dsimp only
      split
      · exact Logs.say nofun
      · exact Logs.fail f
    · exact Logs.pure ()
    · exact (hdescribe.within Watcher.bench _).bind fun _ => Logs.say nofun

theorem inner_observe (answer : Except Failure (Option Window)) :
    (observe config backend answer).Logs Log.Entry.IsInner := by
  cases answer with
  | error f =>
    unfold observe
    dsimp only
    split
    · exact (Logs.say nofun).bind fun _ => Logs.pure none
    · exact Logs.fail f
  | ok observed =>
    unfold observe
    refine Logs.state.bind fun w => ?_
    split
    · refine (Logs.say nofun).bind fun _ => (Logs.update _).bind fun _ => ?_
      cases observed with
      | none => exact Logs.pure _
      | some window => exact (inner_switchFor config h window).bind fun _ => Logs.pure _
    · exact Logs.pure none

variable (hsource : source.activeWindow.Logs Log.Entry.IsInner)

include hsource

theorem inner_poll : (poll config backend source).Logs Log.Entry.IsInner :=
  ((hsource.within Layout.Bench.device _).within Watcher.bench _).attempt.bind fun answer =>
    inner_observe config h answer

theorem inner_pollOn : (pollOn config backend source).Logs Log.Entry.IsInner := by
  unfold pollOn
  refine (inner_poll config h hsource).attempt.bind fun result => ?_
  cases result with
  | error f => exact Logs.say nofun
  | ok event => exact Logs.pure ()

theorem inner_pollTimes (polls : Nat) : (pollTimes config backend source polls).Logs Log.Entry.IsInner := by
  induction polls with
  | zero => exact Logs.pure ()
  | succ n ih => exact (inner_pollOn config h hsource).bind fun _ => ih

end Focus.Watcher

/-! ## Displays -/

namespace Display.Connection

variable (lib : Library σ) (c : Connection)

theorem inner_open (name : Option String) : (Connection.open lib name).Logs Log.Entry.IsInner := by
  unfold Connection.open
  split
  · exact Logs.fail _
  · refine Logs.bind (Logs.silent fun _ => rfl) fun address => ?_
    cases address with
    | none => exact Logs.fail _
    | some address =>
      refine Logs.bind (Logs.silent fun _ => rfl) fun holder => (Logs.update _).bind fun _ => ?_
      exact (Logs.say nofun).bind fun _ => Logs.pure _

theorem inner_close : (c.close lib).Logs Log.Entry.IsInner := by
  intro w line hl
  rw [log_close] at hl
  split at hl
  · simp only [List.mem_cons, List.not_mem_nil, or_false] at hl
    rcases hl with rfl | rfl
    · exact nofun
    · exact nofun
  · rw [List.mem_singleton.mp hl]
    exact nofun

theorem inner_ask (r : Request) : (c.ask lib r).Logs Log.Entry.IsInner := by
  refine (Logs.update _).bind fun _ => Logs.bind (Logs.silent fun _ => rfl) fun value => ?_
  refine Logs.bind (Logs.silent fun _ => rfl) fun _ => Logs.bind (Logs.silent fun _ => rfl) fun failed => ?_
  split
  · exact (Logs.say nofun).bind fun _ => Logs.fail _
  · exact Logs.pure value

/-! ### The window with the focus -/

theorem inner_root : (c.root lib).Logs Log.Entry.IsInner := Logs.silent fun _ => rfl

theorem inner_classHint (w : WindowId) : (c.classHint lib w).Logs Log.Entry.IsInner := by
  refine (inner_ask lib c _).bind fun hint => ?_
  split
  · exact Logs.pure _
  · exact Logs.pure _

theorem inner_title (w : WindowId) : (c.title lib w).Logs Log.Entry.IsInner := by
  refine (inner_ask lib c _).attempt.bind fun answer => ?_
  cases answer with
  | error f => exact (Logs.say nofun).bind fun _ => Logs.pure _
  | ok name => exact Logs.pure _

theorem inner_parent (w : WindowId) : (c.parent lib w).Logs Log.Entry.IsInner := by
  refine (inner_ask lib c _).attempt.bind fun answer => ?_
  cases answer with
  | error f => exact Logs.pure _
  | ok place => exact Logs.pure _

theorem inner_firstNamed (windows : List WindowId) : (c.firstNamed lib windows).Logs Log.Entry.IsInner := by
  induction windows with
  | nil => exact Logs.pure _
  | cons w rest ih =>
    refine (inner_classHint lib c w).attempt.bind fun answer => ?_
    rcases answer with f | _ | hint
    · exact (Logs.say nofun).bind fun _ => ih
    · exact ih
    · exact Logs.pure _

theorem inner_owner (focus : WindowId) : (c.owner lib focus).Logs Log.Entry.IsInner := by
  refine (inner_classHint lib c focus).bind fun hint => ?_
  cases hint with
  | some hint => exact Logs.pure _
  | none =>
    refine (inner_parent lib c focus).bind fun parent => (inner_root lib c).bind fun root => ?_
    refine (inner_firstNamed lib c _).bind fun found => ?_
    cases found with
    | some found => exact Logs.pure _
    | none => exact (Logs.say nofun).bind fun _ => Logs.pure _

theorem inner_focusedWindow : (c.focusedWindow lib).Logs Log.Entry.IsInner := by
  refine (inner_ask lib c _).bind fun focus => ?_
  split
  · exact Logs.pure _
  · exact (inner_owner lib c _).bind fun _ => (inner_title lib c _).bind fun _ => Logs.pure _

/-! ### The keyboard -/

theorem inner_keyboard : (c.keyboard lib).Logs Log.Entry.IsInner := by
  refine (inner_ask lib c _).bind fun reply => ?_
  split
  · exact Logs.fail _
  · exact Logs.pure _

theorem inner_lockGroup (group : Nat) : (c.lockGroup lib group).Logs Log.Entry.IsInner := by
  refine (inner_ask lib c _).bind fun sent => ?_
  split
  · exact Logs.fail _
  · exact (inner_keyboard lib c).bind fun state => (Logs.say nofun).bind fun _ => Logs.pure _

theorem inner_layoutNames : (c.layoutNames lib).Logs Log.Entry.IsInner := by
  refine (inner_ask lib c _).bind fun atom => ?_
  split
  · exact Logs.pure _
  · refine (inner_root lib c).bind fun root => (inner_ask lib c _).bind fun property => ?_
    split
    · exact Logs.fail _
    · exact Logs.pure _

theorem inner_backend : (c.backend lib).Logs Log.Entry.IsInner where
  current := (inner_keyboard lib c).bind fun _ => Logs.pure _
  lock := inner_lockGroup lib c
  names := inner_layoutNames lib c

end Display.Connection

/-! ## Sessions and dry runs -/

theorem Session.inner_check (configured declared environment : Option String) :
    (Session.check (S := S) configured declared environment).Logs Log.Entry.IsInner := by
  unfold Session.check
  refine (Logs.say nofun).bind fun _ => ?_
  cases display? configured environment with
  | none =>
    dsimp only
    split
    · exact (Logs.say nofun).bind fun _ => Logs.fail _
    · exact Logs.fail _
  | some name =>
    have hnamed : (Step.say .info .session s!"Используется дисплей {name}" >>= fun _ => pure (ofDeclared declared) :
        Step S Session).Logs Log.Entry.IsInner := (Logs.say nofun).bind fun _ => Logs.pure _
    dsimp only
    split
    · exact (Logs.say nofun).bind fun _ => hnamed
    · exact hnamed

namespace Program

open Display (Connection Library Shares World)
open Focus (Source Watcher)
open Layout (Backend)

theorem Rehearsal.inner_source : Rehearsal.source.activeWindow.Logs Log.Entry.IsInner := by
  refine Logs.within _ _ (Logs.state.bind fun c => ?_)
  cases c.windows[c.index]? with
  | none => exact Logs.pure _
  | some window =>
    refine (Logs.update _).bind fun _ => ?_
    cases window with
    | none => exact Logs.pure _
    | some w => exact (Logs.say nofun).bind fun _ => Logs.pure _

theorem Rehearsal.inner_backend : Rehearsal.backend.Logs Log.Entry.IsInner :=
  Backend.Logs.within (b := Backend.dryRun)
    { current := Logs.state.bind fun _ => Logs.pure _
      lock _ := (Logs.say nofun).bind fun _ => (Logs.update _).bind fun _ => Logs.pure _
      names := Logs.state.bind fun _ => Logs.pure _ } _ _

/-! ## Shares -/

section Shares

variable (lib : Library σ) (shares : Shares Owner) (owner : Owner) (display : Option Connection)

theorem inner_closeUnowned : (shares.closeUnowned lib display).Logs Log.Entry.IsInner := by
  unfold Shares.closeUnowned
  cases display with
  | none => exact Logs.pure _
  | some c =>
    dsimp only
    split
    · exact Logs.pure _
    · exact Connection.inner_close lib c

theorem inner_reshare {f : Shares Owner → Step (World σ) (Shares Owner)}
    (h : ∀ shares, (f shares).Logs Log.Entry.IsInner) : (Surroundings.reshare f).Logs Log.Entry.IsInner :=
  Logs.state.bind fun s => ((h s.shares).within _ _).bind fun _ => Logs.update _

theorem inner_share : (share lib display owner).Logs Log.Entry.IsInner := by
  refine inner_reshare fun shares => ?_
  cases display with
  | none => exact Logs.pure _
  | some c => exact (inner_closeUnowned lib _ _).bind fun _ => Logs.pure _

theorem inner_letGo : (letGo lib owner).Logs Log.Entry.IsInner :=
  inner_reshare fun _ => (inner_closeUnowned lib _ _).bind fun _ => Logs.pure _

theorem inner_letGoAll (owners : List Owner) : (letGoAll lib owners).Logs Log.Entry.IsInner := by
  induction owners with
  | nil => exact Logs.pure ()
  | cons owner rest ih => exact (inner_letGo lib owner).bind fun _ => ih

/-- Releasing the shares adds lines of other parts only. -/
theorem mem_log_releasing {α : Type} {t : Step (Surroundings σ) α} {s : Surroundings σ} {line : Log.Entry}
    (h : line ∈ ((releasing lib t).run s).log) : line ∈ (t.run s).log ∨ line.IsInner := by
  have hend : (letGoAll lib [.source, .backend, .command] >>= fun _ => Step.ofExcept (t.run s).result).Logs
      Log.Entry.IsInner := by
    refine (inner_letGoAll lib _).bind fun _ => ?_
    cases (t.run s).result with
    | error f => exact Logs.fail f
    | ok a => exact Logs.pure a
  unfold releasing at h
  rw [Step.run_bind_attempt] at h
  exact (List.mem_append.mp h).imp_right (hend _ line)

end Shares

/-! ## The warning about stray errors -/

/-- Any line but the warning about stray errors. -/
def IsRoutine (line : Log.Entry) : Prop := line ≠ strayLine

theorem routine_of_inner {line : Log.Entry} (h : line.IsInner) : IsRoutine line :=
  fun heq => h (congrArg Log.Entry.origin heq)

/-- A warning is not a piece of information. -/
theorem routine_info {origin : Log.Origin} {text : String} :
    (Step.say .info origin text : Step S Unit).Logs IsRoutine :=
  Logs.say fun heq => nomatch congrArg Log.Entry.level heq

theorem routine_introduce (plan : Plan) : (introduce plan : Step S Unit).Logs IsRoutine :=
  routine_info.bind fun _ => routine_info

theorem routine_announceDryRun : (announceDryRun : Step S Unit).Logs IsRoutine :=
  Logs.say (by unfold IsRoutine; decide)

theorem routine_display (lib : Library σ) (env : Environment) (plan : Plan) :
    (display lib env plan).Logs IsRoutine := by
  have hconnect : (connect lib plan.config env).Logs Log.Entry.IsInner :=
    (Session.inner_check _ _ _).bind fun _ => Connection.inner_open lib _
  unfold display
  split
  · exact routine_announceDryRun.bind fun _ => Logs.pure _
  · refine Logs.mono ?_ fun _ => routine_of_inner
    exact (hconnect.within _ _).bind fun c => (inner_share lib _ _).bind fun _ => Logs.pure _

/-- A watch does not warn, whatever its source and backend do. -/
theorem routine_watch (config : Config) (source : Source S) (backend : Backend S)
    (hsource : source.activeWindow.Logs Log.Entry.IsInner) (hbackend : backend.Logs Log.Entry.IsInner) (polls : Nat) :
    (watch config source backend polls).Logs IsRoutine := by
  have hpolling (w : Watcher S) : (polling config source backend polls w).Logs IsRoutine := by
    have hpolls := (Watcher.inner_pollTimes config hbackend hsource polls).mono fun _ => routine_of_inner
    exact (routine_info.bind fun _ => hpolls).within _ _
  rw [watch_eq]
  refine routine_info.bind fun _ => routine_info.bind fun _ => routine_info.bind fun _ => Logs.state.bind fun s => ?_
  exact (hpolling _).bind fun _ => routine_info.bind fun _ => routine_info

/-- **The end of a watch warns** if the unrouted holder is raised then. -/
theorem mem_log_endWatch (s : Surroundings σ) :
    strayLine ∈ (endWatch.run s).log ↔ s.world.routes.occurred .unrouted = true := by
  have hother : strayLine ≠ endLine := by decide
  rw [run_endWatch]
  cases s.world.routes.occurred .unrouted <;> simp [hother]

end Program

end FocusLayout
