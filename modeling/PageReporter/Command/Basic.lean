import PageReporter.Command.Delay
import PageReporter.Text.Blank

/-!
# Commands

The command language: words, of which `wait` and `click` take the word after them as argument.

* `Command.tokens` — the words of a command text;
* `Command.ofTokens` — the commands that a list of words stands for;
* `Outcome` — what became of one command.
-/

namespace PageReporter

/-- A command as it was written, complete or not. -/
inductive Command
  /-- A wait with its time argument, if there is a word for it. -/
  | wait (arg : Option String)
  /-- A click with its selector, if there is a word for it. -/
  | click (selector : Option String)
  /-- A word that is no command. -/
  | unknown (verb : String)
deriving DecidableEq

namespace Command

/-- The words of a command text: what stands between blanks. There is no quoting. -/
def tokens (text : String) : List String :=
  (Text.words text.toList).map String.ofList

/-- The commands that a list of words stands for. A verb takes the next word as its argument
whatever that word is, and goes without only at the end. -/
def ofTokens : List String → List Command
  | [] => []
  | [verb] =>
    if verb = "wait" then [.wait none]
    else if verb = "click" then [.click none]
    else [.unknown verb]
  | verb :: arg :: rest =>
    if verb = "wait" then .wait (some arg) :: ofTokens rest
    else if verb = "click" then .click (some arg) :: ofTokens rest
    else .unknown verb :: ofTokens (arg :: rest)

/-- How many words a command takes. -/
def width : Command → Nat
  | .wait (some _) => 2
  | .click (some _) => 2
  | _ => 1

end Command

/-! ## Outcomes -/

/-- How a command ended. -/
inductive Outcome.Kind
  | ok
  | syntaxError
  | runtimeError
deriving DecidableEq

/-- What became of one command. -/
structure Outcome where
  kind : Outcome.Kind
  /-- How many words the command took. -/
  advance : Nat
  /-- Why it did not succeed; empty if it did. -/
  reason : String
  /-- The fault behind it, if there is one. -/
  cause : Option Fault
deriving DecidableEq

namespace Outcome

/-- A command that succeeded. -/
def success (command : Command) : Outcome :=
  ⟨.ok, command.width, "", none⟩

/-- A command that is not written as it should be. -/
def syntaxError (command : Command) (reason : String) : Outcome :=
  ⟨.syntaxError, command.width, reason, none⟩

/-- A command that failed when it ran. -/
def runtimeError (command : Command) (reason : String) (cause : Fault) : Outcome :=
  ⟨.runtimeError, command.width, reason, some cause⟩

/-- Whether the command succeeded. -/
def isOk (outcome : Outcome) : Bool :=
  outcome.kind = .ok

end Outcome

end PageReporter
