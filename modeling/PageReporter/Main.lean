import PageReporter.CommandLine
import PageReporter.Rehearsal.Running
import PageReporter.Session

/-!
# The tool

The outermost layer: arguments, environment and settings file are read, and lines are printed.
What is done with them is decided by `CommandLine.plan`, `Settings.load` and `Session.run`. The
browser of the session is the scripted one of the rehearsals, with nothing written into its
script, so a run shows what the tool would print of a page that loads without a hitch.
-/

namespace PageReporter.Tool

/-- Prints a line on its stream. -/
def printLine : Line → IO Unit
  | (.out, text) => IO.println text
  | (.err, text) => IO.eprintln text

/-- The variables of the environment that settings come from, as far as they are set. -/
def environment : IO (List (String × String)) := do
  let found ← Settings.sourceNames.mapM fun name => do
    return (← IO.getEnv name).map fun text => (name, text)
  return found.filterMap id

/-- What stands where the settings file should be. -/
def settingsFile (home : String) : IO SettingsFile := do
  match ← (IO.FS.readBinFile (home ++ "/.pagewatch/config.json")).toBaseIO with
  | .ok content => return .bytes content
  | .error (.noFileOrDirectory ..) => return .missing
  | .error _ => return .directory

/-- Prints the notes that the level in force lets through. -/
def printNotes (notes : List Note) : IO Unit := do
  let (log, _) := Logging.configure {} none (← IO.getEnv "PAGEWATCH_LOG_LEVEL")
  for note in notes do
    if log.outputs.shows note.level then IO.eprintln s!"{note.level.name} | {note.message}"

/-- What a visit is: the notes on its settings, and the session with them. -/
def session (home : String) (file : SettingsFile) (env : List (String × String))
    (invocation : Invocation) : List Note × Script Host (List Outcome) :=
  let loaded := Settings.load home file env
  (loaded.1, (Script.ofExcept loaded.2).bind fun settings =>
    Session.run invocation.url invocation.commands settings)

/-- Prints what a visit comes to in the end. A fault that nothing reports is told as it is. -/
def finish : CommandLine.Ending → IO UInt32
  | .exit status lines => do
    lines.forM printLine
    return UInt32.ofNat status
  | .escape cause => do
    IO.eprintln cause.message
    return 1

/-- Runs a session and prints what it reports. -/
def visit (color : Bool) (invocation : Invocation) : IO UInt32 := do
  let home := (← IO.getEnv "HOME").getD ""
  let (notes, script) := session home (← settingsFile home) (← environment) invocation
  let world : World (List Outcome) := { scenario := {}, peer := {} }
  let (world, result) := world.perform script
  let record := world.shutDown.record
  printNotes (notes ++ record.notes)
  record.lines.forM fun (_, _, line) => printLine line
  finish (CommandLine.ending color result)

/-- Does what the arguments ask for, and answers the exit code. -/
def run (args : List String) : IO UInt32 := do
  let plain := ((← IO.getEnv "NO_COLOR").getD "") ≠ ""
  let color := !plain && (← (← IO.getStdout).isTty)
  match CommandLine.plan args with
  | .help => do
    (CommandLine.helpLines color).forM printLine
    return 0
  | .version => do
    printLine CommandLine.versionLine
    return 0
  | .refuse e => do
    (CommandLine.refusal color e).forM printLine
    return 1
  | .visit invocation => visit color invocation

end PageReporter.Tool

def main (args : List String) : IO UInt32 :=
  PageReporter.Tool.run args
