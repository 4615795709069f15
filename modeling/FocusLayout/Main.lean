import FocusLayout.Program.Run

/-!
# The command line

Reads the environment and the settings file, runs the program, and writes what it leaves behind. No X server is bound
here, so a display can never be opened; dry runs need none.
-/

open FocusLayout

/-- The library that opens no display. -/
def noServer : Display.Library Unit where
  connect _ s := ⟨none, [], s⟩
  disconnect _ s := ⟨(), [], s⟩
  sync _ s := ⟨(), [], s⟩
  root _ _ := 0
  ask _ r s :=
    match r with
    | .inputFocus => ⟨(0 : Nat), [], s⟩
    | .classHint _ => ⟨(⟨0, none, none⟩ : Display.ClassHint), [], s⟩
    | .windowName _ => ⟨(none : Option (List UInt8)), [], s⟩
    | .tree _ => ⟨(⟨0, 0⟩ : Display.TreePlace), [], s⟩
    | .atom _ _ => ⟨(0 : Nat), [], s⟩
    | .property _ _ _ _ => ⟨(⟨1, 0, none⟩ : Display.Property), [], s⟩
    | .keyboard _ => ⟨(⟨1, 0, 0, 0⟩ : Display.KeyboardReply), [], s⟩
    | .lockGroup _ _ => ⟨(0 : Int), [], s⟩

/-- The environment of the process. -/
def readEnvironment : IO Environment := do
  let bytes ← try IO.FS.readBinFile "/proc/self/environ" catch _ => pure .empty
  let settings := Text.fields (· == 0) bytes.toList
  return Environment.ofList <| settings.filterMap fun setting =>
    let cs := Text.Utf8.decodeLossy setting
    match cs.dropWhile (· != '=') with
    | [] => none
    | _ :: value => some (String.ofList (cs.takeWhile (· != '=')), String.ofList value)

/-- The bytes of a file, if it can be read. -/
def readFile (path : String) : IO (Option (List UInt8)) := do
  try return some (← IO.FS.readBinFile path).toList
  catch _ => return none

/-- Writes log lines. -/
def writeLog (log : List Log.Entry) : IO Unit := do
  for entry in log do IO.eprintln entry.line

/-- Writes what a run leaves behind. -/
def writeReport (report : Program.Report) : IO UInt32 := do
  writeLog report.log
  IO.print report.output
  if let some complaint := report.complaint then IO.eprintln complaint
  return UInt32.ofNat report.code

/-- Polls for ever. -/
partial def watchOn (plan : Program.Plan) (watcher : Focus.Watcher Program.Rehearsal) : IO Unit := do
  let o := (Focus.Watcher.pollOn plan.config Program.Rehearsal.backend Program.Rehearsal.source).run watcher
  writeLog (o.log.filter plan.filter.keeps)
  IO.sleep (UInt32.ofNat plan.config.watch.pollingIntervalMs)
  watchOn plan o.state

/-- Watches as a dry run until the process is stopped. -/
def rehearseWatch (plan : Program.Plan) : IO UInt32 := do
  let start : Step Program.Rehearsal (Focus.Watcher Program.Rehearsal) := do
    Program.introduce plan
    Program.announceDryRun
    Program.startWatch plan.config Program.Rehearsal.source Program.Rehearsal.backend
  let o := start.run .default
  writeLog (o.log.filter plan.filter.keeps)
  match o.result with
  | .error f => writeReport (.failure f.message [])
  | .ok watcher =>
    let announced := (Focus.Watcher.announce plan.config).run watcher
    writeLog (announced.log.filter plan.filter.keeps)
    watchOn plan announced.state
    return 0

/-- Runs the program. -/
def main (words : List String) : IO UInt32 := do
  let env ← readEnvironment
  let path := match CommandLine.read words with
    | .ok invocation => invocation.settingsFile
    | .error _ => CommandLine.defaultSettingsFile
  let content ← readFile path
  match Program.prepare env (fun _ => content) words with
  | .error refusal =>
    if let some page := refusal.hint? then IO.eprint page
    writeReport refusal.report
  | .ok plan =>
    if plan.invocation.isDryRun && plan.invocation.command = .watch then rehearseWatch plan
    else writeReport (Program.run noServer (.initial ()) env (fun _ => content) 0 words).report
