import PageReporter.Fault
import PageReporter.Text.Case

/-!
# Internal log

What the tool notes about itself, apart from its output, and the level from which on such notes
are shown.

* `LogLevel` — the levels in increasing order; `LogLevel.shown` — what a level lets through;
* `Outputs` — what notes are written to: outputs, each with a level of its own;
* `Logging.configure` — puts a level in force, once for each change of level;
* `Note` — a note, with the fault behind it if there is one.
-/

namespace PageReporter

/-! ## Levels -/

/-- The levels of internal notes. -/
inductive LogLevel
  | trace
  | debug
  | info
  | success
  | warning
  | error
  | critical
deriving DecidableEq

namespace LogLevel

/-- The levels in increasing order. -/
def all : List LogLevel :=
  [.trace, .debug, .info, .success, .warning, .error, .critical]

def name : LogLevel → String
  | .trace => "TRACE"
  | .debug => "DEBUG"
  | .info => "INFO"
  | .success => "SUCCESS"
  | .warning => "WARNING"
  | .error => "ERROR"
  | .critical => "CRITICAL"

/-- The level with this name. -/
def ofName? (name : String) : Option LogLevel :=
  all.find? fun level => level.name = name

/-- How grave the notes of a level are. -/
def severity : LogLevel → Nat
  | .trace => 5
  | .debug => 10
  | .info => 20
  | .success => 25
  | .warning => 30
  | .error => 40
  | .critical => 50

/-- The levels that get through when this one is in force. -/
def shown (level : LogLevel) : List LogLevel :=
  all.filter fun other => level.severity ≤ other.severity

end LogLevel

/-! ## Outputs -/

/-- An output of notes. No two outputs ever get the same number. -/
structure Output where
  number : Nat
  /-- The level from which on notes are written to it. -/
  least : LogLevel
deriving DecidableEq

/-- The outputs of notes. At the start there is one that leaves out the finest notes alone. -/
structure Outputs where
  installed : List Output := [⟨0, .debug⟩]
  /-- The number of the output that is installed next. -/
  next : Nat := 1
deriving DecidableEq

namespace Outputs

/-- Takes away every output. -/
def clear (outputs : Outputs) : Outputs :=
  { outputs with installed := [] }

/-- One more output, for the notes from this level on. -/
def install (outputs : Outputs) (least : LogLevel) : Outputs :=
  ⟨outputs.installed ++ [⟨outputs.next, least⟩], outputs.next + 1⟩

/-- Adds an output for the notes from the level of this name on. Nothing is added where there is no
such level. -/
def add (outputs : Outputs) (name : String) : Except Fault Outputs :=
  match LogLevel.ofName? name with
  | some least => .ok (outputs.install least)
  | none => .error (.badValue s!"Level '{name}' does not exist")

/-- Whether a note of this level is written to any output. -/
def shows (outputs : Outputs) (level : LogLevel) : Bool :=
  outputs.installed.any fun output => output.least.shown.contains level

end Outputs

/-! ## Configuration -/

/-- The state of the internal log: the outputs, and the name of the level in force, once there is
one. -/
structure Logging where
  outputs : Outputs := {}
  remembered : Option String := none
deriving DecidableEq

namespace Logging

/-- The level whose name is remembered. -/
def level (log : Logging) : Option LogLevel :=
  log.remembered.bind LogLevel.ofName?

/-- The name of the level that is asked for, in upper case. An argument that is not empty comes
first, then the environment, then the default. -/
def requested (argument environment : Option String) : String :=
  let name := match argument with
    | some name => if name.isEmpty then environment.getD "WARNING" else name
    | none => environment.getD "WARNING"
  String.ofList (Text.asciiUpper name.toList)

/-- Puts the level that is asked for in force: all outputs give way to one for this level. They
stay as they are if the name asked for is that of the level in force; a name that is no level's
stands for warnings. `add` is how an output is added. The answer says whether the outputs were
replaced. -/
def configureBy (add : Outputs → String → Except Fault Outputs) (log : Logging)
    (argument environment : Option String) : Logging × Except Fault Bool :=
  let name := requested argument environment
  if log.remembered = some name then (log, .ok false)
  else
    let cleared := log.outputs.clear
    match add cleared name with
    | .ok outputs => (⟨outputs, some name⟩, .ok true)
    | .error e =>
      if e.isBadValue then
        match add cleared "WARNING" with
        | .ok outputs => (⟨outputs, some "WARNING"⟩, .ok true)
        | .error e => (⟨cleared, log.remembered⟩, .error e)
      else (⟨cleared, log.remembered⟩, .error e)

/-- Puts the level that is asked for in force. The flag says whether the outputs were replaced. -/
def configure (log : Logging) (argument environment : Option String) : Logging × Bool :=
  let (log, replaced) := log.configureBy Outputs.add argument environment
  (log, replaced.toOption.getD false)

end Logging

/-! ## Notes -/

/-- An internal note. -/
structure Note where
  level : LogLevel
  message : String
  /-- The fault that was passed over, if that is what the note is about. -/
  cause : Option Fault
deriving DecidableEq

namespace Note

/-- A warning about something that is ignored. -/
def warning (message : String) : Note :=
  ⟨.warning, message, none⟩

/-- An error that was passed over, with its cause. -/
def skipped (message : String) (cause : Fault) : Note :=
  ⟨.error, message, some cause⟩

end Note

end PageReporter
