import FocusLayout.Display.Scene
import FocusLayout.Proofs.Config.Loading
import FocusLayout.Proofs.Display.Stray
import FocusLayout.Proofs.Focus.Watch
import FocusLayout.Proofs.Program.Holding
import FocusLayout.Proofs.Program.Lines

/-!
# What is told of stray errors at the end of a watch

A watch always ends by being interrupted (`watch_ends`). Then its connection is closed, so that the last errors arrive,
and only after that the unrouted holder is read (`watchUntil_connected`, `perform_watch`). Since nothing else touches
this holder, the warning is there exactly if an error was stray, and errors on the program's own connection never are
(`watch_warns_iff_strayed`).
-/

namespace FocusLayout.Program

open CommandLine (Invocation)
open Display (Address Connection Fault Happening InUse Library Reached Request Scene Shares Stage Strayed World errorsIn
  errorsIn_lifetime lifetime strayed_lifetime_iff)
open Focus (Source Watcher)
open Layout (Backend)
open Step (Ends)

variable {S σ : Type}

/-! ## The watch -/

/-- A watch always ends by being interrupted. -/
theorem watch_ends (config : Config) (source : Source S) (backend : Backend S) (polls : Nat) (s : S) :
    ∃ s', (watch config source backend polls).Ends s (.ok ()) s' := by
  have hpolls (w : Watcher S) : ∃ w', (Watcher.pollTimes config backend source polls).Ends w (.ok ()) w' := by
    induction polls generalizing w with
    | zero => exact ⟨w, .pure⟩
    | succ n ih =>
      have hone : (Watcher.pollOn config backend source).Ends w (.ok ())
          ((Watcher.poll config backend source).run w).state := by
        unfold Ends
        rw [Watcher.run_pollOn]
        exact ⟨rfl, rfl⟩
      obtain ⟨w', hrest⟩ := ih ((Watcher.poll config backend source).run w).state
      exact ⟨w', hone.bind_ok hrest⟩
  have hsay {T : Type} (level : Log.Level) (origin : Log.Origin) (text : String) (t : T) :
      (Step.say level origin text : Step T Unit).Ends t (.ok ()) t := ⟨rfl, rfl⟩
  obtain ⟨s', hpolled⟩ : ∃ s',
      (polling config source backend polls (Watcher.fresh config.layout.cycle s)).Ends s (.ok ()) s' := by
    obtain ⟨w', hw⟩ := hpolls (Watcher.fresh config.layout.cycle s)
    exact ⟨w'.bench.device, Ends.within ((hsay _ _ _ _).bind_ok hw)⟩
  have hstate : (Step.state : Step S S).Ends s (.ok s) s := ⟨rfl, rfl⟩
  rw [watch_eq]
  refine ⟨s', (hsay _ _ _ _).bind_ok ((hsay _ _ _ _).bind_ok ((hsay _ _ _ _).bind_ok (hstate.bind_ok ?_)))⟩
  exact hpolled.bind_ok ((hsay _ _ _ _).bind_ok (hsay _ _ _ _))

section Connected

variable (lib : Library σ) {I : World σ → Prop} {c : Connection} {s : Surroundings σ} (config : Config)

/-- The shares are handed on without a word, and then it is the watch's turn. -/
theorem run_handing_on (h : s.shares.Of c) (polls : Nat) :
    ∃ s', (do
      let source ← makeSource lib (some c) false
      let backend ← makeBackend lib (some c) false
      letGo lib .command
      watch config source backend polls).run s =
        (watch config ((c.source lib).within Surroundings.world Surroundings.withWorld)
          ((c.backend lib).within Surroundings.world Surroundings.withWorld) polls).run s' := by
  have hrest : ((s.shares.withShare .source c).withShare .backend c).without .command ≠ .empty :=
    Shares.withShare_without_ne_empty nofun
  have hsource := run_makeSource lib h
  have hbackend := run_makeBackend lib (s := s.withShares (s.shares.withShare .source c)) (h.withShare .source)
  have hgone := run_letGo_kept lib
    (s := s.withShares ((s.shares.withShare .source c).withShare .backend c)) ((h.withShare _).withShare _) hrest
  exact ⟨_, (Step.run_bind_silent hsource _).trans <| (Step.run_bind_silent hbackend _).trans <|
    Step.run_bind_silent hgone _⟩

/-- After a watch the world is that in which the connection has been closed. Until then every request has preserved the
condition, and there has been no warning. -/
theorem watchUntil_connected (hask : ∀ r : Request, (c.ask lib r).Preserves I) (h : Holding I c s) (polls : Nat) :
    ∃ w s', I w ∧ s'.world = ((c.close lib).run w).state ∧
      (watchUntil lib config (some c) false polls).Ends s (.ok ()) s' ∧
      strayLine ∉ ((watchUntil lib config (some c) false polls).run s).log := by
  have hholding := h.watch lib hask config polls
  obtain ⟨hresult, hworld⟩ := run_releasing lib hholding.alone hholding.shared
  obtain ⟨s₁, hwatch⟩ := run_handing_on lib config h.alone polls
  obtain ⟨s₂, hends⟩ := watch_ends config ((c.source lib).within Surroundings.world Surroundings.withWorld)
    ((c.backend lib).within Surroundings.world Surroundings.withWorld) polls s₁
  have hroutine := routine_watch config ((c.source lib).within Surroundings.world Surroundings.withWorld) _
    ((Connection.inner_focusedWindow lib c).within Surroundings.world Surroundings.withWorld)
    ((Connection.inner_backend lib c).within Surroundings.world Surroundings.withWorld) polls s₁
  refine ⟨_, _, hholding.world, hworld, ⟨hresult.trans ?_, rfl⟩, fun hline => ?_⟩
  · rw [hwatch]
    exact hends.1
  · rcases mem_log_releasing lib hline with hline | hinner
    · rw [hwatch] at hline
      exact hroutine _ hline rfl
    · exact routine_of_inner hinner rfl

/-- A watch that has come through warns if the unrouted holder is raised at its end, and clears that. -/
theorem perform_watch {env : Environment} {plan : Plan} (hcommand : plan.invocation.command = .watch)
    {connection : Option Connection} {s s' : Surroundings σ} {w : World σ} {polls : Nat}
    (hdisplay : (display lib env plan).Ends (.start w) (.ok connection) s)
    (hwatch : (watchUntil lib plan.config connection plan.invocation.isDryRun polls).Ends s (.ok ()) s')
    (hroutine : strayLine ∉ ((watchUntil lib plan.config connection plan.invocation.isDryRun polls).run s).log) :
    (perform lib env plan polls).Ends (.start w) (.ok "") (s'.withWorld s'.world.takeUnrouted.2) ∧
      (strayLine ∈ ((perform lib env plan polls).run (.start w)).log ↔ s'.world.routes.occurred .unrouted = true) := by
  have hend : endWatch.Ends s' (.ok "") (s'.withWorld s'.world.takeUnrouted.2) := by
    unfold Ends
    rw [run_endWatch]
    exact ⟨rfl, rfl⟩
  have hintroduced := introduce_ends plan (Surroundings.start w)
  have hcarry : (carryOut lib plan.config connection plan.invocation.isDryRun polls plan.invocation.command).Ends s
      (.ok "") (s'.withWorld s'.world.takeUnrouted.2) := by
    rw [hcommand]
    exact hwatch.bind_ok hend
  have hlog : strayLine ∈ ((carryOut lib plan.config connection plan.invocation.isDryRun polls
      plan.invocation.command).run s).log ↔ s'.world.routes.occurred .unrouted = true := by
    rw [hcommand, carryOut, hwatch.log_bind, List.mem_append, or_iff_right hroutine, mem_log_endWatch]
  have hfirst : strayLine ∉ ((introduce plan).run (Surroundings.start w)).log :=
    fun h => routine_introduce plan _ _ h rfl
  have hsecond : strayLine ∉ ((display lib env plan).run (.start w)).log :=
    fun h => routine_display lib env plan _ _ h rfl
  refine ⟨hintroduced.bind_ok (hdisplay.bind_ok hcarry), ?_⟩
  rw [perform, hintroduced.log_bind, List.mem_append, or_iff_right hfirst, hdisplay.log_bind, List.mem_append,
    or_iff_right hsecond, hlog]

end Connected

/-! ## The connection -/

section Granted

variable (lib : Library σ) {server : σ} {env : Environment} {name : Option String} {a : Address}

/-- A run that comes to a connection opens it. -/
theorem open_of_reach_granted {plan : Plan} (h : reach lib server env plan = .granted name a) :
    plan.invocation.isDryRun = false ∧ (connect lib plan.config env).Ends (.initial server) (.ok (firstAt name a))
      (openedAt lib server name a) ∧
    (Connection.open lib name).Ends (.initial server) (.ok (firstAt name a)) (openedAt lib server name a) := by
  unfold reach at h
  cases hdry : plan.invocation.isDryRun with
  | true => simp [hdry] at h
  | false =>
    simp only [hdry, Bool.false_eq_true, if_false] at h
    split at h
    · cases h
    · cases h
    · rename_i display hdisplay hnul
      split at h
      · cases h
      · rename_i b hb
        obtain ⟨rfl, rfl⟩ := Access.granted.inj h
        have hopen : (Connection.open lib plan.config.display.name).Ends (.initial server)
            (.ok (firstAt plan.config.display.name b)) (openedAt lib server plan.config.display.name b) :=
          Connection.run_open_some lib hnul hb
        exact ⟨rfl, connect_with_display lib hdisplay hopen, hopen⟩

end Granted

/-! ## Every watch -/

/-- A watch has been interrupted after a history in which all connections have been closed. The errors in the record are
those of the history, and there is the warning exactly if one of them was stray. -/
structure Interrupted (lib : Library σ) (server : σ) (o : Outcome (Surroundings σ) String) (history : List Happening) :
    Prop where
  result : o.result = .ok ""
  reached : ∃ w, Reached lib server history [] w ∧ o.state.world = w.takeUnrouted.2
  errors : o.state.world.errors = errorsIn history
  warned_iff : strayLine ∈ o.log ↔ Strayed history

section Runs

variable (lib : Library σ) (server : σ) (env : Environment) {plan : Plan} (polls : Nat)

/-- A dry run has no history, and there is no warning. -/
theorem interrupted_rehearsal (hcommand : plan.invocation.command = .watch) (hdry : plan.invocation.isDryRun = true) :
    Interrupted lib server ((perform lib env plan polls).run (.start (.initial server))) [] := by
  have hnone : ¬Strayed [] := by
    rintro ⟨before, a, after, hhistory, -⟩
    simp at hhistory
  obtain ⟨r, hwatch⟩ := watch_ends plan.config Rehearsal.source Rehearsal.backend polls .default
  have hroutine := routine_watch plan.config Rehearsal.source Rehearsal.backend Rehearsal.inner_source Rehearsal.inner_backend polls
  have hlast : (say .info "FocusWatcher завершил работу" : Step Rehearsal Unit).Ends r (.ok ()) r := ⟨rfl, rfl⟩
  have hrehearsed : (rehearsed plan.config polls plan.invocation.command).Ends .default (.ok "") r := by
    rw [hcommand]
    exact hwatch.bind_ok (hlast.bind_ok .pure)
  have hlog : (rehearse plan polls).Logs IsRoutine := by
    unfold rehearse
    rw [hcommand]
    refine (routine_introduce plan).bind fun _ => routine_announceDryRun.bind fun _ => ?_
    exact hroutine.bind fun _ => routine_info.bind fun _ => Step.Logs.pure _
  have hannounced : (announceDryRun : Step Rehearsal Unit).Ends .default (.ok ()) .default := ⟨rfl, rfl⟩
  have hends : (rehearse plan polls).Ends .default (.ok "") r :=
    (introduce_ends plan _).bind_ok (hannounced.bind_ok hrehearsed)
  rw [run_perform env plan polls hdry rfl]
  exact ⟨hends.1, ⟨.initial server, .start, rfl⟩, rfl, iff_of_false (fun h => hlog _ _ h rfl) hnone⟩

/-- The history of a run that comes to a connection is the lifetime of that. -/
theorem interrupted_connected {name : Option String} {a : Address} (hcommand : plan.invocation.command = .watch)
    (h : reach lib server env plan = .granted name a) :
    let early := (lib.connect name server).errors
    ∃ work w, let last := (lib.disconnect a w.server).errors
      Reached lib server (early.map .error ++ .registered a (.own 0) :: work) [firstAt name a] w ∧
      Interrupted lib server ((perform lib env plan polls).run (.start (.initial server)))
        (lifetime early (firstAt name a) work last) ∧
      (Strayed (lifetime early (firstAt name a) work last) ↔ early ≠ [] ∨ ∃ b ∈ errorsIn work ++ last, b ≠ a) := by
  intro early
  obtain ⟨hdry, hconnect, hopen⟩ := open_of_reach_granted lib h
  have hinUse : InUse lib server early (firstAt name a) (openedAt lib server name a) := by
    have hopened := InUse.opened hopen.1
    rwa [hopen.2] at hopened
  obtain ⟨w, s', hw, hworld, hwatch, hroutine⟩ :=
    watchUntil_connected lib plan.config InUse.preserves_ask (Holding.opened hinUse (firstAt name a)) polls
  obtain ⟨work, hstill, hreached, hclosed, herrors⟩ := hw.close
  rw [← hworld] at hclosed herrors
  rw [← hdry] at hwatch hroutine
  obtain ⟨hends, hwarned⟩ := perform_watch lib hcommand (display_with_connection lib hdry hconnect) hwatch hroutine
  refine ⟨work, w, hreached, ⟨hends.1, ⟨s'.world, hclosed, ?_⟩, ?_, ?_⟩, strayed_lifetime_iff hclosed.spares hstill⟩
  · rw [hends.2]
    rfl
  · rw [hends.2, errorsIn_lifetime]
    exact herrors
  · rw [hwarned]
    exact hclosed.occurred_unrouted_iff

end Runs

/-! ### The report -/

section Reports

variable {lib : Library σ} {world : World σ} {env : Environment} {file : String → Option (List UInt8)} {polls : Nat}
  {words : List String} {plan : Plan}

/-- With a plan there is a run. -/
theorem run_of_prepare_ok (h : prepare env file words = .ok plan) :
    run lib world env file polls words =
      ⟨.ofOutcome plan.filter ((perform lib env plan polls).run (.start world)),
        ((perform lib env plan polls).run (.start world)).state.world⟩ := by
  unfold run
  rw [h]

/-- A command without a plan is a failure. -/
theorem code_of_prepare_error {refusal : Refusal} {invocation : Invocation}
    (h : prepare env file words = .error refusal) (hwords : CommandLine.read words = .ok invocation) :
    (run lib world env file polls words).report.code = 1 := by
  unfold run
  rw [h]
  rcases refusal with stop | ⟨settings, e⟩ | fault
  · exact absurd hwords (not_read_of_stop h invocation)
  · rfl
  · rfl

/-- A watch that has been interrupted is a success, and the report has its warning if the filter lets that through. -/
theorem Interrupted.report {server : σ} {history : List Happening} (hprepare : prepare env file words = .ok plan)
    (h : Interrupted lib server ((perform lib env plan polls).run (.start (.initial server))) history) :
    let report := (run lib (.initial server) env file polls words).report
    report.code = 0 ∧ (strayLine ∈ report.log ↔ plan.filter.keeps strayLine = true ∧ Strayed history) := by
  intro report
  have hreport : report = ⟨0, "", none,
      ((perform lib env plan polls).run (.start (.initial server))).log.filter plan.filter.keeps⟩ := by
    unfold report
    rw [run_of_prepare_ok hprepare]
    unfold Report.ofOutcome
    rw [h.result]
  rw [hreport, List.mem_filter, h.warned_iff]
  exact ⟨rfl, and_comm⟩

end Reports

/-! ### Any library and server -/

/-- **At its end a watch warns of stray errors, and of no others.** Take any library and server, environment, settings
file and number of polls, and a command line for a watch. A watch that comes to a connection is interrupted in the end.
A watch that is interrupted has a history, of which the record holds all errors, and it warns exactly if one of them was
stray: that is, if it arrived on an address that was not registered at that moment. The report has the warning if the
log filter lets it through.

A watch with a connection has opened, used and closed it. Stray are the errors of opening it, and those on other
addresses; of the errors on its own address none is from its registration on, up to the last ones of closing it. -/
theorem watch_warns_iff_strayed (lib : Library σ) (server : σ) (env : Environment)
    (file : String → Option (List UInt8)) (polls : Nat) {words : List String} {invocation : Invocation}
    (hwords : CommandLine.read words = .ok invocation) (hwatch : invocation.command = .watch) :
    let ending := run lib (.initial server) env file polls words
    (∀ name a, access lib server env file words = .granted name a → ending.report.code = 0) ∧
    (ending.report.code = 0 → ∃ plan history,
      let o := (perform lib env plan polls).run (.start (.initial server))
      prepare env file words = .ok plan ∧ ending.world = o.state.world ∧ Interrupted lib server o history ∧
      (strayLine ∈ ending.report.log ↔ plan.filter.keeps strayLine = true ∧ Strayed history) ∧
      match access lib server env file words with
      | .unasked => history = []
      | .refused _ => False
      | .granted name a =>
        let early := (lib.connect name server).errors
        ∃ work w, let last := (lib.disconnect a w.server).errors
          Reached lib server (early.map .error ++ .registered a (.own 0) :: work) [firstAt name a] w ∧
          history = lifetime early (firstAt name a) work last ∧
          (Strayed history ↔ early ≠ [] ∨ ∃ b ∈ errorsIn work ++ last, b ≠ a)) := by
  intro ending
  cases hprepare : prepare env file words with
  | error refusal =>
    have haccess : access lib server env file words = .unasked := by
      unfold access
      rw [hprepare]
    rw [haccess]
    exact ⟨nofun, fun hcode => nomatch hcode.symm.trans (code_of_prepare_error hprepare hwords)⟩
  | ok plan =>
    obtain rfl := Except.ok.inj (hwords.symm.trans (read_of_prepare_ok hprepare))
    have hworld : ending.world = ((perform lib env plan polls).run (.start (.initial server))).state.world :=
      congrArg Ending.world (run_of_prepare_ok hprepare)
    have haccess : access lib server env file words = reach lib server env plan := by
      unfold access
      rw [hprepare]
    have hcases := run_access lib server env file polls words
    rw [haccess] at hcases ⊢
    cases hdry : plan.invocation.isDryRun with
    | true =>
      have hreach : reach lib server env plan = .unasked := if_pos hdry
      have hinterrupted := interrupted_rehearsal lib server env polls hwatch hdry
      rw [hreach]
      exact ⟨nofun, fun _ => ⟨plan, [], rfl, hworld, hinterrupted, (hinterrupted.report hprepare).2, rfl⟩⟩
    | false =>
      cases hreach : reach lib server env plan with
      | unasked =>
        rw [hreach] at hcases
        exact ⟨nofun, fun hcode => nomatch hcode.symm.trans (hcases.1 _ hwords hdry)⟩
      | refused name =>
        rw [hreach] at hcases
        exact ⟨nofun, fun hcode => nomatch hcode.symm.trans (hcases.1 _ hwords hdry)⟩
      | granted name a =>
        obtain ⟨work, w, hreached, hinterrupted, hstrayed⟩ := interrupted_connected lib server env polls hwatch hreach
        obtain ⟨hcode, hlog⟩ := hinterrupted.report hprepare
        exact ⟨fun _ _ _ => hcode,
          fun _ => ⟨plan, _, rfl, hworld, hinterrupted, hlog, work, w, hreached, rfl, hstrayed⟩⟩

/-- A server with one display, on which the requests with a name go wrong. -/
def faulty (name : String) (fault : Fault) : Stage :=
  .ofScene { Scene.default with displays := [":0"], defaultDisplay := some ":0", faults := [(name, fault)] }

/-- A session on that display, with a filter for warnings. -/
def warnSession : Environment := [("RUST_LOG", "[\x7bmessage\x7d]=warn"), ("DISPLAY", ":0")]

/-- A watch of a single poll in that session. -/
def watchFaulty (name : String) (fault : Fault) : Ending Stage :=
  run Stage.library (.initial (faulty name fault)) warnSession (fun _ => none) 1 ["watch"]

/-- An error that comes in on an unknown connection during the poll is told of, and one that comes in on the watch's own
connection while that is being closed is not. -/
theorem watch_warns_iff_strayed_faulty :
    (watchFaulty "XGetInputFocus" .unrouted).world.errors = [Stage.nowhere] ∧
    strayLine ∈ (watchFaulty "XGetInputFocus" .unrouted).report.log ∧
    (watchFaulty "XCloseDisplay" .call).world.errors = [1] ∧
    strayLine ∉ (watchFaulty "XCloseDisplay" .call).report.log := by
  have hwords : CommandLine.read ["watch"] = .ok ⟨"xswitch.toml", false, none, .watch⟩ := by rfl
  obtain ⟨plan, hplan, hkeeps⟩ : ∃ plan, prepare warnSession (fun _ => none) ["watch"] = .ok plan ∧
      plan.filter.keeps strayLine = true := Config.exists_ok_of_map (by decide +kernel)
  have hwarns (name : String) (fault : Fault)
      (haccess : access Stage.library (faulty name fault) warnSession (fun _ => none) ["watch"] = .granted none 1) :
      strayLine ∈ (watchFaulty name fault).report.log ↔ ∃ a ∈ (watchFaulty name fault).world.errors, a ≠ 1 := by
    have law := watch_warns_iff_strayed Stage.library (faulty name fault) warnSession (fun _ => none) 1 hwords rfl
    obtain ⟨plan', history, hplan', hworld, hinterrupted, hlog, hhistory⟩ := law.2 (law.1 none 1 haccess)
    obtain rfl := Except.ok.inj (hplan.symm.trans hplan')
    rw [haccess] at hhistory
    obtain ⟨work, w, -, rfl, hstrayed⟩ := hhistory
    have hearly : (Stage.library.connect none (faulty name fault)).errors = [] := rfl
    have herrors : (watchFaulty name fault).world.errors =
        errorsIn work ++ (Stage.library.disconnect 1 w.server).errors := by
      have hall := hinterrupted.errors
      rw [← hworld, errorsIn_lifetime, hearly] at hall
      exact hall
    rw [herrors]
    unfold watchFaulty
    rw [hlog, and_iff_right hkeeps, hstrayed, hearly, or_iff_right (not_not_intro rfl)]
  have hfirst : (watchFaulty "XGetInputFocus" .unrouted).world.errors = [Stage.nowhere] := by decide +kernel
  have hlast : (watchFaulty "XCloseDisplay" .call).world.errors = [1] := by decide +kernel
  refine ⟨hfirst, (hwarns _ _ (by decide +kernel)).mpr ?_, hlast, fun h => ?_⟩
  · rw [hfirst]
    exact ⟨Stage.nowhere, List.mem_cons_self, nofun⟩
  · obtain ⟨a, ha, hne⟩ := (hwarns _ _ (by decide +kernel)).mp h
    rw [hlast] at ha
    exact hne (List.mem_singleton.mp ha)

end FocusLayout.Program
