import FocusLayout.Display.Scene
import FocusLayout.Proofs.Program.Parts
import FocusLayout.Proofs.Program.Preparing
import FocusLayout.Proofs.Program.Sharing

/-!
# A dry run has nothing to do with any display

The source and the backend of a dry run have only the rehearsal, and nothing is shared. So a command does what it does
on the rehearsal alone, and the run goes as if there were no world (`rehearse`, `run_carryOut`, `run_perform`).

What a run needs to know beforehand does not come from the session (`prepare_congr`). Together: `dry_run_independent`.
-/

namespace FocusLayout.Program

open CommandLine (Command Invocation)
open Display (Library Scene Stage World)

variable {σ τ : Type}

/-! ## The run without a world -/

/-- What a command does as a dry run, apart from any world. -/
def rehearsed (config : Config) (polls : Nat) : Command → Step Rehearsal String
  | .focus => focus Rehearsal.source
  | .layout change => layout config Rehearsal.backend change
  | .state => groupState config Rehearsal.backend
  | .watch => do
    watch config Rehearsal.source Rehearsal.backend polls
    say .info "FocusWatcher завершил работу"
    return ""

/-- A dry run, apart from any world. -/
def rehearse (plan : Plan) (polls : Nat) : Step Rehearsal String := do
  introduce plan
  announceDryRun
  rehearsed plan.config polls plan.invocation.command

/-! ### Nothing shared -/

section Unshared

variable {s : Surroundings σ} (lib : Library σ)

/-- Where nothing is shared, a dry run works on the rehearsal alone: the command lets go of nothing first. -/
theorem run_releasing_rehearsal {α : Type} {t : Step Rehearsal α} {t' : Step (Surroundings σ) α}
    (ht : t' = t.within Surroundings.rehearsal Surroundings.withRehearsal) (h : s.shares = .empty) :
    (releasing lib (letGo lib .command >>= fun _ => t')).run s =
      (t.within Surroundings.rehearsal Surroundings.withRehearsal).run s := by
  subst ht
  have hbody : (letGo lib .command >>= fun _ => t.within Surroundings.rehearsal Surroundings.withRehearsal).run s =
      (t.within Surroundings.rehearsal Surroundings.withRehearsal).run s :=
    Step.run_bind_silent (run_letGo_unshared lib h .command) _
  rw [run_releasing_unshared lib (by rw [hbody]; exact h), hbody]

end Unshared

variable {lib : Library σ}

/-- A watch ends without a warning where nothing unrouted is raised. -/
theorem run_endWatch_calm {s : Surroundings σ} (h : s.world.takeUnrouted = (false, s.world)) :
    endWatch.run s = ⟨.ok "", s, [endLine]⟩ := by
  have hclear : s.world.routes.occurred .unrouted = false := congrArg Prod.fst h
  rw [run_endWatch, hclear, congrArg Prod.snd h]
  rfl

/-- Where nothing is shared and nothing unrouted is raised, a command does as a dry run what it does apart from the
world. -/
theorem run_carryOut (lib : Library σ) (config : Config) (polls : Nat) (command : Command) {s : Surroundings σ}
    (hshares : s.shares = .empty) (hworld : s.world.takeUnrouted = (false, s.world)) :
    (carryOut lib config none true polls command).run s =
      ((rehearsed config polls command).within Surroundings.rehearsal Surroundings.withRehearsal).run s := by
  have h : Step.IsPart (Surroundings.rehearsal (σ := σ)) Surroundings.withRehearsal := isPart_rehearsal
  cases command with
  | focus => exact run_releasing_rehearsal lib (focus_within h Rehearsal.source) hshares
  | layout c => exact run_releasing_rehearsal lib (layout_within h config Rehearsal.backend c) hshares
  | state =>
    have hstate : state lib config none true =
        (groupState config Rehearsal.backend).within Surroundings.rehearsal Surroundings.withRehearsal :=
      groupState_within h config Rehearsal.backend
    rw [carryOut, hstate]
    exact run_releasing_unshared lib hshares
  | watch =>
    have hwatch : (watchUntil lib config none true polls).run s =
        ((watch config Rehearsal.source Rehearsal.backend polls).within Surroundings.rehearsal
          Surroundings.withRehearsal).run s :=
      run_releasing_rehearsal lib (watch_within h config Rehearsal.source Rehearsal.backend polls) hshares
    rw [carryOut, rehearsed, Step.run_within]
    cases hr : ((watch config Rehearsal.source Rehearsal.backend polls).run s.rehearsal).result with
    | error f =>
      rw [Step.run_bind_error _ hr, Step.run_bind_error _ (by rw [hwatch]; exact hr), hwatch]
      rfl
    | ok a =>
      have hend := run_endWatch_calm (s := ((watchUntil lib config none true polls).run s).state)
        (by rw [hwatch]; exact hworld)
      rw [Step.run_bind_ok _ hr, Step.run_bind_ok _ (by rw [hwatch]; exact hr), hend, hwatch]
      rfl

/-- A dry run from the first line to the last. -/
theorem run_perform (env : Environment) (plan : Plan) (polls : Nat) {world : World σ}
    (hdry : plan.invocation.isDryRun = true) (hworld : world.takeUnrouted = (false, world)) :
    (perform lib env plan polls).run (.start world) =
      ((rehearse plan polls).within Surroundings.rehearsal Surroundings.withRehearsal).run (.start world) := by
  have hdisplay : display lib env plan = announceDryRun >>= fun _ => pure none := if_pos hdry
  have hcommand := run_carryOut lib plan.config polls plan.invocation.command (s := .start world) rfl hworld
  -- three lines stand in front on both sides
  let lines := ((introduce plan : Step Rehearsal Unit).run .default).log ++
    ((announceDryRun : Step Rehearsal Unit).run .default).log
  unfold perform
  rw [hdisplay, hdry]
  exact congrArg (fun o => Outcome.mk o.result o.state (lines ++ o.log)) hcommand

/-! ## Any display or none -/

/-- **A dry run does not depend on any display.** Take any settings file, any command line with the flag for a dry run,
and any number of polls of a watch. Two runs over any two libraries and servers, in environments that differ at most in
the display that they name and in the kind of session that they tell, report the same: code, output, complaint and log.
And nothing is asked of any library: each run ends in the world that it began in, without exchanges and routes. -/
theorem dry_run_independent (lib : Library σ) (server : σ) (lib' : Library τ) (server' : τ) {env env' : Environment}
    (henv : besideSession env = besideSession env') (file : String → Option (List UInt8)) (polls : Nat)
    {words : List String} {invocation : Invocation} (hwords : CommandLine.read words = .ok invocation)
    (hdry : invocation.isDryRun = true) :
    (run lib (.initial server) env file polls words).report =
      (run lib' (.initial server') env' file polls words).report ∧
    (run lib (.initial server) env file polls words).world = .initial server ∧
    (run lib' (.initial server') env' file polls words).world = .initial server' := by
  unfold run
  rw [prepare_congr henv]
  cases hprepare : prepare env' file words with
  | error refusal => exact ⟨rfl, rfl, rfl⟩
  | ok plan =>
    have hplan : plan.invocation.isDryRun = true := by
      have hread := read_of_prepare_ok hprepare
      obtain rfl := Except.ok.inj (hwords.symm.trans hread)
      exact hdry
    dsimp only
    rw [run_perform env plan polls hplan rfl, run_perform env' plan polls hplan rfl]
    exact ⟨rfl, rfl, rfl⟩

/-- A server with one display, on which the focus is asked for in vain. -/
def unfocused : Scene :=
  { Scene.default with displays := [":0"], defaultDisplay := some ":0", faults := [("XGetInputFocus", .call)] }

/-- In a Wayland session without any display and in one on that server, a dry run goes to the second layout. -/
theorem dry_run_independent_wayland :
    let words := ["--dry-run", "layout", "--next"]
    let wayland := run Stage.library (.initial (.ofScene .default)) [("RUST_LOG", ""), ("XDG_SESSION_TYPE", "wayland")]
      (fun _ => none) 0 words
    let xorg := run Stage.library (.initial (.ofScene unfocused))
      [("RUST_LOG", ""), ("DISPLAY", ":0"), ("XDG_SESSION_TYPE", "x11")] (fun _ => none) 0 words
    wayland.report.output = "1 (ru)\n" ∧ wayland.report = xorg.report ∧ xorg.world = .initial (.ofScene unfocused) := by
  intro words wayland xorg
  have hwords : CommandLine.read words = .ok ⟨"xswitch.toml", true, none, .layout .next⟩ := by rfl
  have henv : besideSession [("RUST_LOG", ""), ("XDG_SESSION_TYPE", "wayland")] =
      besideSession [("RUST_LOG", ""), ("DISPLAY", ":0"), ("XDG_SESSION_TYPE", "x11")] := by decide
  have law := dry_run_independent Stage.library (.ofScene .default) Stage.library (.ofScene unfocused) henv
    (fun _ => none) 0 hwords rfl
  refine ⟨?_, law.1, law.2.2⟩
  decide +kernel

end FocusLayout.Program
