import FocusLayout.Program.Run
import FocusLayout.Proofs.Display.Asking
import FocusLayout.Proofs.Display.Use
import FocusLayout.Proofs.Program.DryRun

/-!
# How a run comes to its connection

A run that is no dry run opens a connection if its session has a display (`connect_without_display`,
`connect_with_display`). If there is no connection, that is the end (`perform_without_connection`). Otherwise the
command is carried out, which at first has the only share of it (`perform_with_connection`).

How far a run comes is known from its plan, its environment and the answer of the library (`access`). By that, a run
ends as its command does on a connection that has just been opened, or without any (`run_access`).
-/

namespace FocusLayout

variable {S σ : Type}

/-- A session without a display is no good. -/
theorem Session.check_none (declared : Option String) {configured environment : Option String}
    (h : display? configured environment = none) (s : S) :
    ∃ f, (check configured declared environment).Ends s (.error f) s := by
  unfold check
  simp only [h]
  split <;> exact ⟨_, rfl, rfl⟩

/-- Any session with a display is. -/
theorem Session.check_some (declared : Option String) {configured environment : Option String} {name : String}
    (h : display? configured environment = some name) (s : S) :
    ∃ session, (check configured declared environment).Ends s (.ok session) s := by
  unfold check
  simp only [h]
  split <;> exact ⟨_, rfl, rfl⟩

namespace Program

open Display (Address Connection Library Shares World)

variable (lib : Library σ) {config : Config} {env : Environment} {w w' : World σ}

/-! ## Connecting -/

/-- Without a display nothing is asked for. -/
theorem connect_without_display (h : Session.display? config.display.name (env.value? "DISPLAY") = none) (w : World σ) :
    ∃ f, (connect lib config env).Ends w (.error f) w := by
  obtain ⟨f, hf⟩ := Session.check_none (env.value? "XDG_SESSION_TYPE") h w
  exact ⟨f, hf.bind_error⟩

/-- With a display a connection is opened. -/
theorem connect_with_display {name : String} {r : Except Failure Connection}
    (h : Session.display? config.display.name (env.value? "DISPLAY") = some name)
    (hopen : (Connection.open lib config.display.name).Ends w r w') : (connect lib config env).Ends w r w' := by
  obtain ⟨session, hok⟩ := Session.check_some (env.value? "XDG_SESSION_TYPE") h w
  exact hok.bind_ok hopen

/-! ## The rest of the run -/

/-- A connection that has just been opened belongs to the command. -/
def Surroundings.opened (world : World σ) (c : Connection) : Surroundings σ :=
  (Surroundings.start world).withShares (Shares.empty.withShare .command c)

theorem introduce_ends (plan : Plan) (s : S) : (introduce plan).Ends s (.ok ()) s := ⟨rfl, rfl⟩

section Performing

variable {plan : Plan} (hdry : plan.invocation.isDryRun = false)

include hdry

theorem display_without_connection {f : Failure} (h : (connect lib plan.config env).Ends w (.error f) w') :
    (display lib env plan).Ends (.start w) (.error f) (.start w') := by
  unfold display
  rw [if_neg (by rw [hdry]; nofun)]
  exact h.within.bind_error

theorem display_with_connection {c : Connection} (h : (connect lib plan.config env).Ends w (.ok c) w') :
    (display lib env plan).Ends (.start w) (.ok (some c)) (.opened w' c) := by
  have hshare : (share lib (some c) .command).Ends (.start w') (.ok ()) (.opened w' c) := by
    unfold Step.Ends
    rw [run_share lib .empty .command]
    exact ⟨rfl, rfl⟩
  unfold display
  rw [if_neg (by rw [hdry]; nofun)]
  exact h.within.bind_ok (hshare.bind_ok .pure)

variable (polls : Nat)

/-- Without a connection a run has come to its end. -/
theorem perform_without_connection {f : Failure} (h : (connect lib plan.config env).Ends w (.error f) w') :
    (perform lib env plan polls).Ends (.start w) (.error f) (.start w') :=
  (introduce_ends plan _).bind_ok (display_without_connection lib hdry h).bind_error

/-- With a connection the command is carried out. -/
theorem perform_with_connection {c : Connection} {r : Except Failure String} {s : Surroundings σ}
    (h : (connect lib plan.config env).Ends w (.ok c) w')
    (hcarry : (carryOut lib plan.config (some c) false polls plan.invocation.command).Ends (.opened w' c) r s) :
    (perform lib env plan polls).Ends (.start w) r s := by
  rw [← hdry] at hcarry
  exact (introduce_ends plan _).bind_ok ((display_with_connection lib hdry h).bind_ok hcarry)

end Performing

/-! ## How far a run comes -/

/-- How far a run comes towards a connection. -/
inductive Access where
  /-- The library is not asked for one. -/
  | unasked
  /-- The library is asked for the display of this name, and refuses. -/
  | refused (name : Option String)
  /-- The library opens a connection to it at this address. -/
  | granted (name : Option String) (a : Address)
  deriving DecidableEq, Repr

/-- How far a run comes with a plan: a dry run, a session without a display and a name with a zero byte keep the library
from being asked. -/
def reach (server : σ) (env : Environment) (plan : Plan) : Access :=
  let name := plan.config.display.name
  if plan.invocation.isDryRun then .unasked
  else
    match Session.display? name (env.value? "DISPLAY"), name.bind Connection.nulPosition? with
    | none, _ => .unasked
    | some _, some _ => .unasked
    | some _, none =>
      match (lib.connect name server).value with
      | none => .refused name
      | some a => .granted name a

/-- How far the run comes that has been called like this. A bad command line, configuration or filter is no plan. -/
def access (server : σ) (env : Environment) (file : String → Option (List UInt8)) (words : List String) : Access :=
  match prepare env file words with
  | .error _ => .unasked
  | .ok plan => reach lib server env plan

/-- The first connection of a program, at an address. -/
def firstAt (name : Option String) (a : Address) : Connection :=
  ⟨a, .own 0, Connection.shownName name⟩

/-- The world in which it has been opened. -/
def openedAt (server : σ) (name : Option String) (a : Address) : World σ :=
  (World.connect lib name (.initial server)).2.newHolder.2.reroute fun r => r.register a (.own 0)

/-- A run that comes to a connection ends as its command does, and any other run in a failure. -/
theorem perform_access (env : Environment) {plan : Plan} (hdry : plan.invocation.isDryRun = false) (polls : Nat)
    (server : σ) :
    match reach lib server env plan with
    | .unasked => ∃ f, (perform lib env plan polls).Ends (.start (.initial server)) (.error f)
        (.start (.initial server))
    | .refused name => ∃ f, (perform lib env plan polls).Ends (.start (.initial server)) (.error f)
        (.start (World.connect lib name (.initial server)).2)
    | .granted name a => ∀ r s,
        (carryOut lib plan.config (some (firstAt name a)) false polls plan.invocation.command).Ends
          (.opened (openedAt lib server name a) (firstAt name a)) r s →
        (perform lib env plan polls).Ends (.start (.initial server)) r s := by
  unfold reach
  rw [if_neg (by rw [hdry]; nofun)]
  cases hdisplay : Session.display? plan.config.display.name (env.value? "DISPLAY") with
  | none =>
    obtain ⟨f, hconnect⟩ := connect_without_display lib hdisplay (.initial server)
    exact ⟨f, perform_without_connection lib hdry polls hconnect⟩
  | some display =>
    cases hnul : plan.config.display.name.bind Connection.nulPosition? with
    | some position =>
      obtain ⟨⟨f, hf⟩, hstate⟩ := Connection.run_open_nul (w := .initial server) lib hnul
      exact ⟨f, perform_without_connection lib hdry polls (connect_with_display lib hdisplay ⟨hf, hstate⟩)⟩
    | none =>
      cases ha : (lib.connect plan.config.display.name server).value with
      | none =>
        obtain ⟨⟨f, hf⟩, hstate⟩ := Connection.run_open_null (w := .initial server) lib hnul ha
        exact ⟨f, perform_without_connection lib hdry polls (connect_with_display lib hdisplay ⟨hf, hstate⟩)⟩
      | some a =>
        have hopen : (Connection.open lib plan.config.display.name).Ends (.initial server)
            (.ok (firstAt plan.config.display.name a)) (openedAt lib server plan.config.display.name a) :=
          Connection.run_open_some lib hnul ha
        exact fun r s => perform_with_connection lib hdry polls (connect_with_display lib hdisplay hopen)

/-- The report of a result. -/
def Report.ofResult (r : Except Failure String) (log : List Log.Entry) : Report :=
  match r with
  | .ok output => ⟨0, output, none, log⟩
  | .error f => .failure f.message log

theorem Report.ofOutcome_ends {t : Step S String} {s s' : S} {r : Except Failure String} (filter : Log.Filter)
    (h : t.Ends s r s') : ∃ log, Report.ofOutcome filter (t.run s) = .ofResult r log :=
  ⟨_, congrArg (Report.ofResult · ((t.run s).log.filter filter.keeps)) h.1⟩

/-- **How every run ends.** A run that comes to a connection ends as its command does. Any other ends in the world that
it has come to; if it was given a command that is no dry run, it reports a failure. -/
theorem run_access (server : σ) (env : Environment) (file : String → Option (List UInt8)) (polls : Nat)
    (words : List String) :
    let ending := run lib (.initial server) env file polls words
    let failed := ∀ invocation, CommandLine.read words = .ok invocation → invocation.isDryRun = false →
      ending.report.code = 1
    match access lib server env file words with
    | .unasked => failed ∧ ending.world = .initial server
    | .refused name => failed ∧ ending.world = (World.connect lib name (.initial server)).2
    | .granted name a => ∃ plan, prepare env file words = .ok plan ∧ ∀ r s,
        (carryOut lib plan.config (some (firstAt name a)) false polls plan.invocation.command).Ends
          (.opened (openedAt lib server name a) (firstAt name a)) r s →
        (∃ log, ending.report = .ofResult r log) ∧ ending.world = s.world := by
  intro ending failed
  unfold failed ending run access
  cases hprepare : prepare env file words with
  | error refusal =>
    refine ⟨fun invocation hwords _ => ?_, rfl⟩
    rcases refusal with stop | ⟨settings, e⟩ | fault
    · exact absurd hwords (not_read_of_stop hprepare invocation)
    · rfl
    · rfl
  | ok plan =>
    dsimp only
    cases hdry : plan.invocation.isDryRun with
    | true =>
      have hreach : reach lib server env plan = .unasked := if_pos hdry
      rw [run_perform env plan polls hdry rfl, hreach]
      refine ⟨fun invocation hwords hno => ?_, rfl⟩
      obtain rfl := Except.ok.inj (hwords.symm.trans (read_of_prepare_ok hprepare))
      cases hdry.symm.trans hno
    | false =>
      have hcases := perform_access lib env hdry polls server
      cases hreach : reach lib server env plan with
      | unasked =>
        rw [hreach] at hcases
        obtain ⟨f, hperform⟩ := hcases
        obtain ⟨log, hreport⟩ := Report.ofOutcome_ends plan.filter hperform
        exact ⟨fun _ _ _ => by rw [hreport]; rfl, by rw [hperform.2]; rfl⟩
      | refused name =>
        rw [hreach] at hcases
        obtain ⟨f, hperform⟩ := hcases
        obtain ⟨log, hreport⟩ := Report.ofOutcome_ends plan.filter hperform
        exact ⟨fun _ _ _ => by rw [hreport]; rfl, by rw [hperform.2]; rfl⟩
      | granted name a =>
        rw [hreach] at hcases
        refine ⟨plan, rfl, fun r s hcarry => ?_⟩
        have hperform := hcases r s hcarry
        exact ⟨Report.ofOutcome_ends plan.filter hperform, by rw [hperform.2]⟩

/-! ## The first connection -/

section Opened

variable (server : σ) (name : Option String) (a : Address)

theorem server_openedAt : (openedAt lib server name a).server = (lib.connect name server).state :=
  World.server_call ..

theorem requests_openedAt : (openedAt lib server name a).requests = [.connect name] :=
  Connection.requests_connect lib

/-- It has one route, and none without that. -/
theorem entries_unregister_openedAt : ((openedAt lib server name a).routes.unregister a).entries = [] := by
  have hempty : (World.connect lib name (.initial server)).2.routes.entries = [] := Connection.entries_connect lib
  have hroutes : (openedAt lib server name a).routes =
      (World.connect lib name (.initial server)).2.routes.register a (.own 0) := rfl
  rw [hroutes, Display.Routes.unregister, Display.Routes.register, Display.Routes.unregister, hempty]
  simp

/-- It hears of its errors. -/
theorem listens_openedAt : (firstAt name a).Listens (openedAt lib server name a).routes := by
  have hcalled : Display.Routed [] (World.connect lib name (.initial server)).2 :=
    (Display.Routed.initial server).called (.connect name) (lib.connect name)
  have hholders : (World.connect lib name (.initial server)).2.holders = 0 := World.holders_call ..
  have hown : (firstAt name a).holder = .own (World.connect lib name (.initial server)).2.holders := by
    rw [hholders]
    rfl
  exact (hcalled.registered hown nofun).listens List.mem_cons_self

end Opened

end Program

end FocusLayout
