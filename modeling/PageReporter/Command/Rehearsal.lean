import PageReporter.Command.Executor

/-!
# Rehearsing commands

Commands run against a page that is only a function: from a selector and its state to its next
state, and to whether the click succeeds. No time passes in a pause.

* `Hand.rehearse` — everything that a script asked for, in order, with what it ended with.
-/

namespace PageReporter.Hand

/-- The answer to one question, with the page after it. -/
def answer {σ : Type} (click : String → σ → σ × Except Fault Unit) (page : σ) :
    Hand.Op → σ × Except Fault Unit
  | .click selector => click selector page
  | _ => (page, .ok ())

/-- Runs a script: the questions in order, the page at the end, and the result. -/
def rehearse {σ α : Type} (click : String → σ → σ × Except Fault Unit) :
    Script Hand α → σ → List Hand.Op × σ × Except Fault α
  | .done result, page => ([], page, result)
  | .ask op next, page =>
    let (page, reply) := answer click page op
    let (ops, page, result) := rehearse click (next reply) page
    (op :: ops, page, result)

/-- The line that a question prints. -/
def line? : Hand.Op → Option Line
  | .print line => some line
  | _ => none

/-- The length of the pause that a question asks for. -/
def pause? : Hand.Op → Option Double
  | .pause seconds => some seconds
  | _ => none

/-- The selector that a question clicks. -/
def click? : Hand.Op → Option String
  | .click selector => some selector
  | _ => none

end PageReporter.Hand
