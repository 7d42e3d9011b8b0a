import PageReporter.Host
import PageReporter.LogLevel
import PageReporter.Page.Handle
import PageReporter.Page.Tab
import PageReporter.Rehearsal.Peer
import PageReporter.Wire.Emitter

/-!
# The world of a rehearsal

A rehearsal runs scripts without a browser: on a clock that stands still while anything can
happen, then jumps to the next thing that is due, and against a scripted browser. Everything that
is to be seen is recorded with its time.

* `World` — the whole state; `Scenario` — what the surroundings are to do;
* `World.addTimer`, `World.wake` — what is due later, and what is to go on now;
* `World.spawn` — a script joins those that run.
-/

namespace PageReporter

/-! ## The surroundings -/

/-- What the surroundings of a browser are to do. By default a browser is found, comes up at once
and can be reached. -/
structure Scenario where
  found : Option String := some "/usr/bin/chromium"
  spawnFault : Option Fault := none
  /-- What the port file holds, by the milliseconds after the start. -/
  portFile : List (Double × ByteArray) := [(0, "9222\n/devtools/browser/B1\n".toUTF8)]
  /-- When the process ends by itself, in milliseconds after the start, and with which code. -/
  exit : Option (Double × Int) := none
  /-- How many milliseconds the process takes to end when it is asked to; none if it never does. -/
  endsAfter : Option Double := some 0
  terminateFails : Bool := false
  killFails : Bool := false
  /-- What the browser tells about itself at its address. -/
  description : Except Fault ByteArray :=
    .ok "\x7b\"webSocketDebuggerUrl\":\"ws://localhost/devtools/browser/B1\"\x7d".toUTF8
  socketFault : Option Fault := none
  /-- A text whose printing fails. -/
  unprintable : Option String := none
  /-- The time of day. -/
  wallClock : Double := 1234567890

/-! ## What is recorded -/

/-- The columns that lines are recorded in. The order of lines in different columns is not
told. -/
inductive Lane
  | commands
  | console
  | signals
deriving DecidableEq

/-- Who told an event. -/
inductive Source
  | connection
  | session (key : Value)
  | page (number : Nat)
  | browser

/-- What an event carried. -/
inductive Payload
  | value (v : Value)
  | signal (s : PageSignal)

/-- An event that was told. -/
structure Heard where
  source : Source
  event : String
  payload : Payload

/-- What is to be seen of a rehearsal, each thing in the order in which it happened. -/
structure Record where
  lines : List (Lane × Double × Line) := []
  heard : List Heard := []
  notes : List Note := []
  sent : List (Double × List (String × Value)) := []
  spawned : List (List String) := []
  /-- The signals to the process; the flag says whether it was killed. -/
  signals : List (Double × Bool) := []
  fetched : List String := []
  connected : List (String × Value) := []

/-! ## Those who listen -/

/-- Who listens to the connection. -/
inductive ConnectionListener
  | recorder
  | faulty
  | browser

/-- Who listens to a session. -/
inductive SessionListener
  | recorder
  | faulty
  | tab (number : Nat)

/-- Who listens to a tab or to the browser. -/
inductive Follower
  | recorder
  | feed
deriving DecidableEq

/-- A tab, with its session and those who follow it. -/
structure TabRecord where
  session : Nat
  tab : Tab
  followers : Roster Follower

/-! ## Tasks and timers -/

/-- The reader of the socket. -/
inductive Reader
  | absent
  | running
  /-- It has ended, with a fault if it could not understand a frame. -/
  | ended (fault : Option Fault)

/-- How a script that runs in a rehearsal ends: with a result of its own, or with an argument of a
console call. -/
inductive Ending (α : Type)
  | result (a : α)
  | argument (ticket slot : Nat) (value : Except Fault Value)

/-- A script that waits for an answer. -/
structure Waiting (α : Type) where
  op : Host.Op
  next : Except Fault (Host.Answer op) → Script Host (Ending α)
  /-- The number of the command whose answer is waited for. -/
  number : Nat
  /-- Whether the time of the wait is over. -/
  elapsed : Bool
  /-- Whether the wait has been called off. -/
  cancelled : Bool

/-- How far a script has come. -/
inductive TaskState (α : Type)
  | fresh (script : Script Host (Ending α))
  | waiting (w : Waiting α)

/-- A script among those that run. -/
structure Task (α : Type) where
  id : Nat
  state : TaskState α

/-- What happens when a timer is due, or when something's turn has come. -/
inductive Turn
  /-- A script goes on. -/
  | go (task : Nat)
  /-- The time of a script's wait is over. -/
  | elapse (task : Nat)
  /-- A script is called off. -/
  | callOff (task : Nat)
  /-- Frames come in. -/
  | deliver (frames : List Inbound)
  /-- The reader reads what has come in. -/
  | read
  | exit (code : Int)
  | writePort (content : ByteArray)

/-- Something that is due at a time. -/
structure Timer where
  due : Double
  turn : Turn

/-! ## The state -/

/-- The state of a rehearsal of scripts that end with an `α`. -/
structure World (α : Type) where
  scenario : Scenario
  peer : Peer
  clock : Double := 0
  /-- What is due later, earliest first, and first come first where due together. -/
  timers : List Timer := []
  /-- Whose turn has come, in order. -/
  turns : List Turn := []
  tasks : List (Task α) := []
  /-- How many scripts there have been. -/
  started : Nat := 0
  /-- The scripts that have ended, with their results and times. -/
  finished : List (Nat × Double × Except Fault α) := []
  connection : Connection := {}
  /-- The limit of commands that have none of their own. -/
  timeout : Value := .double 30
  reader : Reader := .absent
  inbox : List Inbound := []
  /-- Whether frames can be sent. -/
  sendable : Bool := true
  /-- Whether frames still come in. -/
  receiving : Bool := true
  connectionListeners : Roster ConnectionListener := {}
  /-- Those who listen to each session, by its number. -/
  sessionListeners : List (Roster SessionListener) := []
  tabs : List TabRecord := []
  browserFollowers : Roster Follower := {}
  kept : List Page := []
  /-- Whether there is a browser, and whether it was started here. -/
  browser : Option Bool := none
  muted : Bool := false
  feed : Feed := {}
  /-- The code with which the process has ended. -/
  exitCode : Option Int := none
  portFile : Option ByteArray := none
  profile : Bool := false
  record : Record := {}

namespace World

variable {α : Type}

/-! ## Time -/

/-- Milliseconds after a time. -/
def after (start milliseconds : Double) : Double :=
  start + milliseconds.divide 1000

/-- Puts a timer behind those that are due no later. -/
def insertTimer (timer : Timer) : List Timer → List Timer
  | [] => [timer]
  | t :: rest => if timer.due.lt t.due then timer :: t :: rest else t :: insertTimer timer rest

/-- Something's turn comes after all that has come already. -/
def addTurn (w : World α) (turn : Turn) : World α :=
  { w with turns := w.turns ++ [turn] }

/-- Lets something happen at a time; at once if that time is over or is no time. -/
def addTimer (w : World α) (due : Double) (turn : Turn) : World α :=
  if w.clock.lt due then { w with timers := insertTimer ⟨due, turn⟩ w.timers } else w.addTurn turn

/-- Whether a turn is about the time of a script's wait. -/
def Turn.isElapseOf (task : Nat) : Turn → Bool
  | .elapse n => n = task
  | _ => false

/-- The time of a script's wait no longer counts. -/
def dropTimers (w : World α) (task : Nat) : World α :=
  { w with
    timers := w.timers.filter fun t => !Turn.isElapseOf task t.turn
    turns := w.turns.filter fun t => !Turn.isElapseOf task t }

/-! ## Records -/

/-- Notes something. -/
def note (w : World α) (n : Note) : World α :=
  { w with record.notes := w.record.notes ++ [n] }

/-- Prints a line in a column. -/
def printLine (w : World α) (lane : Lane) (line : Line) : World α :=
  { w with record.lines := w.record.lines ++ [(lane, w.clock, line)] }

/-- Records an event. -/
def hear (w : World α) (source : Source) (event : String) (payload : Payload) : World α :=
  { w with record.heard := w.record.heard ++ [⟨source, event, payload⟩] }

/-! ## Scripts -/

/-- A script joins those that run; its turn comes after all that has come already. -/
def spawn (w : World α) (script : Script Host (Ending α)) : Nat × World α :=
  let id := w.started
  let task : Task α := ⟨id, .fresh script⟩
  let w := { w with tasks := w.tasks ++ [task], started := id + 1 }
  (id, w.addTurn (.go id))

/-- The script with a number. -/
def task? (w : World α) (id : Nat) : Option (Task α) :=
  w.tasks.find? fun t => t.id = id

/-- A script waits for something. -/
def setWaiting (w : World α) (id : Nat) (waiting : Waiting α) : World α :=
  let task : Task α := ⟨id, .waiting waiting⟩
  { w with tasks := w.tasks.map fun t => if t.id = id then task else t }

/-- A script has ended. -/
def finish (w : World α) (id : Nat) (result : Except Fault α) : World α :=
  { w with
    tasks := w.tasks.filter fun t => t.id ≠ id
    finished := w.finished ++ [(id, w.clock, result)] }

/-- The result of a script that has ended, with its time. -/
def result? (w : World α) (id : Nat) : Option (Double × Except Fault α) :=
  w.finished.lookup id

/-- Whether a script waits for something of a kind. -/
def Task.waitsFor (p : Host.Op → Nat → Bool) (t : Task α) : Bool :=
  match t.state with
  | .waiting w => p w.op w.number
  | .fresh _ => false

/-- The turn of all scripts that wait for something of a kind comes. -/
def wake (w : World α) (p : Host.Op → Nat → Bool) : World α :=
  { w with
    turns := w.turns ++ (w.tasks.filter fun t => Task.waitsFor p t).map fun t => Turn.go t.id }

end World

end PageReporter
