import PageReporter.Rehearsal.Answering

/-!
# Running a rehearsal

Turns are taken until none is left; only then does the clock move, to the next thing that is due.

* `World.settle` — everything that can happen without the clock moving;
* `World.advance` — a stretch of time;
* `World.runUntil` — up to the end of one script;
* `World.shutDown` — what is still running is called off.
-/

namespace PageReporter.World

variable {α : Type}

/-- More steps than any rehearsal takes. -/
def enough : Nat :=
  1000000000000

/-- Takes turns, at most as many as there is fuel. -/
def settleWithin : Nat → World α → World α
  | 0, w => w
  | fuel + 1, w =>
    match w.turns with
    | [] => w
    | turn :: rest => settleWithin fuel ({ w with turns := rest }.takeTurn turn)

/-- Takes turns until none is left. -/
def settle (w : World α) : World α :=
  settleWithin enough w

/-- Moves the clock to the next thing that is due, if there is one, and lets the turn of all that
is due then come. -/
def jump? (w : World α) : Option (World α) :=
  match w.timers with
  | [] => none
  | first :: _ =>
    let (due, later) := w.timers.span fun t => !first.due.lt t.due
    some { w with clock := first.due, timers := later, turns := w.turns ++ due.map Timer.turn }

/-- Moves the clock to a time, through everything that is due until then. -/
def advanceWithin (target : Double) : Nat → World α → World α
  | 0, w => w
  | fuel + 1, w =>
    match w.timers with
    | [] => { w with clock := target }
    | first :: _ =>
      if target.lt first.due then { w with clock := target }
      else
        match w.jump? with
        | some w => advanceWithin target fuel w.settle
        | none => { w with clock := target }

/-- Lets milliseconds pass. The clock never goes back. -/
def advance (w : World α) (milliseconds : Double) : World α :=
  if milliseconds.le 0 then w.settle
  else advanceWithin (after w.clock milliseconds) enough w.settle

/-- Runs until something is the case, or until nothing is due any more. -/
def runWithin (stop : World α → Bool) : Nat → World α → World α
  | 0, w => w
  | fuel + 1, w =>
    if stop w then w
    else
      match w.turns with
      | turn :: rest => runWithin stop fuel ({ w with turns := rest }.takeTurn turn)
      | [] =>
        match w.jump? with
        | some w => runWithin stop fuel w
        | none => w

/-- Runs until a script has ended. -/
def runUntil (w : World α) (id : Nat) : World α :=
  runWithin (fun w => (w.result? id).isSome) enough w

/-- Calls off what is still running: the reader first, and with it the connection. -/
def shutDown (w : World α) : World α :=
  match w.reader with
  | .running => w.endReader none
  | _ => w

/-- How the browser shows itself. -/
def browserLabel? (w : World α) : Option String :=
  w.browser.map fun launched => Browser.label ⟨launched, .null⟩ (!w.connection.closed)

/-- The lines of one column, with their times. -/
def linesOf (w : World α) (lane : Lane) : List (Double × Line) :=
  (w.record.lines.filter fun (l, _) => l = lane).map Prod.snd

/-- Begins a script and runs until it has ended. -/
def perform (w : World α) (script : Script Host α) : World α × Except Fault α :=
  let (id, w) := w.spawn (script.bind fun a => .done (.ok (.result a)))
  let w := w.runUntil id
  match w.result? id with
  | some (_, result) => (w, result)
  | none => (w, .error (.foreign "RuntimeError" "the script waits for what never happens"))

end PageReporter.World
