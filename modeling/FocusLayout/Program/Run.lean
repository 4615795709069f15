import FocusLayout.CommandLine.Reading
import FocusLayout.Config.Load
import FocusLayout.Log.Filter
import FocusLayout.Program.Commands

/-!
# A run of the program

A run begins with what it needs to know before anything happens (`prepare`): the command line, the configuration and the
log filter. If one of them is bad, that is all there is to the run (`Refusal`). Otherwise the command is carried out
(`perform`), with a connection or as a dry run without one.

`Ending` is what a run leaves behind.
-/

namespace FocusLayout.Program

open CommandLine (Invocation Stop)
open Display (Connection Library World)
open Log (Filter)

variable {σ : Type}

/-- The version of the program. -/
def version : String := "0.1.0"

/-! ## Before the run -/

/-- What a run needs to know. -/
structure Plan where
  invocation : Invocation
  config : Config
  filter : Filter

/-- Why there is no run. -/
inductive Refusal where
  | stop (s : Stop)
  | badConfig (file : String) (error : Config.LoadError)
  | badFilter (fault : Log.Filter.Fault)

/-- The log filter of a run: the environment's if that can be read, else the command line's, else the
configuration's. -/
def filterFor (env : Environment) (invocation : Invocation) (config : Config) : Except Filter.Fault Filter :=
  match (env.value? "RUST_LOG").map Filter.read with
  | some (.ok filter) => .ok filter
  | _ => Filter.read (invocation.logFilter.getD config.logDirective)

/-- Finds out what a run needs to know, given the words of the command line, the environment and the files that can
be read. -/
def prepare (env : Environment) (file : String → Option (List UInt8)) (words : List String) :
    Except Refusal Plan :=
  match CommandLine.read words with
  | .error s => .error (.stop s)
  | .ok invocation =>
    match Config.load (file invocation.settingsFile) env with
    | .error e => .error (.badConfig invocation.settingsFile e)
    | .ok config =>
      match filterFor env invocation config with
      | .error fault => .error (.badFilter fault)
      | .ok filter => .ok ⟨invocation, config, filter⟩

/-! ## The run -/

/-- What a run leaves behind: its exit code, the text printed, the complaint at its end, and the lines that passed the
log filter. -/
structure Report where
  code : Nat
  output : String
  complaint : Option String
  log : List Log.Entry
  deriving DecidableEq, Repr

/-- A report, and the world after the run. -/
structure Ending (σ : Type) where
  report : Report
  world : World σ

/-- The report of a failure with a message. -/
def Report.failure (message : String) (log : List Log.Entry) : Report :=
  ⟨1, "", some ("Error: " ++ message), log⟩

/-- The help shown beside a report, when nobody has asked for help: it is not part of the output. -/
def Refusal.hint? : Refusal → Option String
  | stop .nothingGiven => some (CommandLine.Topic.scope .top).page
  | _ => none

/-- The report of a run that is refused. -/
def Refusal.report : Refusal → Report
  | stop (.help topic) => ⟨0, topic.page, none, []⟩
  | stop .nothingGiven => ⟨2, "", none, []⟩
  | stop (.mistake m) => ⟨2, "", some ("error: " ++ m.message), []⟩
  | badConfig file e => .failure (e.message file) []
  | badFilter fault => .failure fault.message []

/-- The report of a command that has run. -/
def Report.ofOutcome {S : Type} (filter : Filter) (o : Outcome S String) : Report :=
  let log := o.log.filter filter.keeps
  match o.result with
  | .ok output => ⟨0, output, none, log⟩
  | .error f => .failure f.message log

/-- The first lines of every run. -/
def introduce {S : Type} (plan : Plan) : Step S Unit := do
  say .info s!"Запуск {CommandLine.programName} v{version}"
  say .info s!"Конфигурация загружена из: {plan.invocation.settingsFile}"

/-- The line that a dry run begins with. -/
def announceDryRun {S : Type} : Step S Unit :=
  say .warn "Режим сухого запуска - X-сервер не используется"

/-- The connection that a run works on; a dry run has none. -/
def display (lib : Library σ) (env : Environment) (plan : Plan) : Step (Surroundings σ) (Option Connection) := do
  if plan.invocation.isDryRun then
    announceDryRun
    return none
  else
    let c ← Surroundings.inWorld (connect lib plan.config env)
    share lib (some c) .command
    return some c

/-- A run from the first line to the last. A watch is interrupted after a number of polls. -/
def perform (lib : Library σ) (env : Environment) (plan : Plan) (polls : Nat) : Step (Surroundings σ) String := do
  introduce plan
  let display ← display lib env plan
  carryOut lib plan.config display plan.invocation.isDryRun polls plan.invocation.command

/-- A run of the program in a world. A watch is interrupted after a number of polls. -/
def run (lib : Library σ) (world : World σ) (env : Environment) (file : String → Option (List UInt8)) (polls : Nat)
    (words : List String) : Ending σ :=
  match prepare env file words with
  | .error refusal => ⟨refusal.report, world⟩
  | .ok plan =>
    let o := (perform lib env plan polls).run (.start world)
    ⟨.ofOutcome plan.filter o, o.state.world⟩

end FocusLayout.Program
