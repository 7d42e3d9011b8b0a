import PageReporter.Command.Basic
import PageReporter.Script
import PageReporter.Stream

/-!
# Running commands

Commands run one after the other against a page. A command is announced before it acts, and what
went wrong is reported after it; neither a bad command nor a failing click keeps the next one
from running.

* `Hand` — what running a command asks for: a line printed, a pause, a click;
* `Command.run` — one command; `Command.runAll` — all of them, with the reports;
* `Command.runText` — the commands of a text.
-/

namespace PageReporter

/-- What running a command asks its surroundings for. -/
inductive Hand.Op
  | print (line : Line)
  | pause (seconds : Double)
  | click (selector : String)
deriving DecidableEq

/-- The surroundings of commands. Nothing they do has a result. -/
def Hand : Signature where
  Op := Hand.Op
  Answer _ := Unit

namespace Command

/-- Runs one command. Only faults of clicking become part of the outcome. -/
def run (command : Command) : Script Hand Outcome :=
  match command with
  | .unknown verb => pure (.syntaxError command s!"Unknown command: {verb}")
  | .wait none =>
    pure (.syntaxError command "wait command needs a time argument (e.g., 5s, 1000ms).")
  | .wait (some arg) => do
    match ← Script.ofExcept (Delay.parse? arg) with
    | none =>
      pure (.syntaxError command
        (s!"Invalid time format for wait: {arg}. "
          ++ "Use 's' for seconds or 'ms' for milliseconds."))
    | some milliseconds => do
      let label ← Script.ofExcept (Delay.label milliseconds)
      Script.perform (S := Hand) (.print (.out, s!"[wait] {label}ms"))
      let seconds ← Script.ofExcept (Delay.seconds milliseconds)
      Script.perform (S := Hand) (.pause seconds)
      pure (.success command)
  | .click none => pure (.syntaxError command "click command needs a selector argument.")
  | .click (some selector) => do
    Script.perform (S := Hand) (.print (.out, s!"[click] {selector}"))
    try
      Script.perform (S := Hand) (.click selector)
      pure (.success command)
    catch e =>
      if e.isOrdinary then
        pure (.runtimeError command s!"Failed to click \"{selector}\": {e.message}" e)
      else throw e

/-- Reports what became of a command, unless it succeeded. -/
def report (outcome : Outcome) : Script Hand Unit :=
  if outcome.isOk then pure ()
  else Script.perform (S := Hand) (.print (.err, s!"[error] {outcome.reason}"))

/-- Runs commands in order, each with its report. -/
def runAll : List Command → Script Hand (List Outcome)
  | [] => pure []
  | command :: rest =>
    (run command).bind fun outcome =>
      (report outcome).bind fun _ =>
        (runAll rest).bind fun outcomes => pure (outcome :: outcomes)

/-- Runs the commands of a text. -/
def runText (text : String) : Script Hand (List Outcome) :=
  runAll (ofTokens (tokens text))

end Command

end PageReporter
